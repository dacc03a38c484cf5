/-
Languages by their names. The names of the languages differ in more than
case, so a text names a language exactly if the two agree up to the case
of ASCII letters, whatever stands before the language in the list. The
grouping is chosen by a comparison of its own, and the two agree
(`Grouping.ofLanguage_of_ofName?`).
-/
import SchemaPress.Generation.Grouping
import SchemaPress.Language

namespace SchemaPress

/-- A text in lower case, as far as ASCII letters have one. -/
def lowerCase (text : String) : List Char := text.toList.map Char.toLower

namespace Language

/-- A text names a language if it agrees with its name up to case. -/
theorem ofName?_eq_some_iff {text : String} {language : Language} :
    ofName? text = some language
      ↔ lowerCase text = lowerCase language.name := by
  constructor
  · intro h
    have hsame := List.find?_some h
    simp only [decide_eq_true_eq] at hsame
    exact hsame.symm
  · -- nothing but the lower case of a text counts when it is looked for
    intro h
    have hsame : ofName? text = ofName? language.name := by
      unfold lowerCase at h
      rw [ofName?, h, ofName?]
    rw [hsame, ofName?_name]

end Language

namespace Grouping

/-- The models of a known language are grouped as the language wants, in
whatever case its name is written. -/
theorem ofLanguage_of_ofName? {text : String} {language : Language}
    (h : Language.ofName? text = some language) :
    ofLanguage text = match language with
      | .typeScript => .aggregated
      | .java => .perModel := by
  have hname := Language.ofName?_eq_some_iff.1 h
  unfold lowerCase at hname
  unfold ofLanguage
  rw [hname]
  cases language with
  | typeScript => exact if_neg (by decide)
  | java => exact if_pos (by decide)

end Grouping

end SchemaPress
