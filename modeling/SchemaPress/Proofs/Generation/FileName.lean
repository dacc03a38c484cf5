/-
The names of output files, taken apart.

A pattern starts with the placeholder, and what comes from the name is
not looked at again. So the name stands in front as it is, whatever it
holds, then a dot, and then the extension with its own placeholders
filled (`nameFor_ofExtension`). Everything else about names of files is a
matter of that last part. It is the outline of the extension with the
name in its gaps (`nameFor_outlined`).

No two names share a file name (`nameFor_injective`). It is not that a
name could be read off its file name, since an extension may repeat it
any number of times; but the longer of two names has the longer file
name, and names of one length are front parts of one length.
-/
import Mathlib.Logic.Function.Basic
import SchemaPress.Proofs.Generation.Placeholder

namespace SchemaPress.NamePattern

/-- The name of a file: the name as it is, a dot, and the filled
extension. -/
theorem nameFor_ofExtension (extension name : String) :
    (ofExtension extension).nameFor name
      = name ++ "." ++ String.ofList
          (fill name.toList 0 (extension.toList.dropWhile (· == '.'))) := by
  have hdot : ∀ rest : List Char, ¬ placeholder <+: '.' :: rest :=
    fun rest h => absurd (List.cons_prefix_cons.1 h).1 (by decide)
  rw [nameFor, ofExtension, String.toList_ofList,
    fill_placeholder_append, fill_cons (hdot _)]
  apply String.toList_inj.1
  simp

/-- An extension that starts with no dot and holds no placeholder is put
behind the name as it is. -/
theorem nameFor_of_plain {extension : String}
    (hdot : extension.toList.head? ≠ some '.')
    (hbrace : '{' ∉ extension.toList) (name : String) :
    (ofExtension extension).nameFor name = name ++ "." ++ extension := by
  have hkeep : extension.toList.dropWhile (· == '.')
      = extension.toList := by
    cases hlist : extension.toList with
    | nil => rfl
    | cons c rest =>
        have hc : c ≠ '.' := by
          intro hc
          rw [hlist, hc] at hdot
          exact hdot rfl
        rw [List.dropWhile_cons_of_neg (by simpa using hc)]
  rw [nameFor_ofExtension, hkeep, fill_of_not_mem hbrace,
    String.ofList_toList]

-- =============================================================== slashes

/-- With an extension without slash, the name of a file has a slash
exactly if the name that it is made from has one. -/
theorem slash_mem_nameFor_iff {extension : String}
    (h : '/' ∉ extension.toList) (name : String) :
    '/' ∈ ((ofExtension extension).nameFor name).toList
      ↔ '/' ∈ name.toList := by
  rw [nameFor_ofExtension, String.toList_append, String.toList_append]
  constructor
  · intro hmem
    rcases List.mem_append.1 hmem with hmem | hmem
    · rcases List.mem_append.1 hmem with hmem | hmem
      · exact hmem
      · exact absurd hmem (by decide)
    · rw [String.toList_ofList] at hmem
      rcases mem_or_mem_of_mem_fill hmem with hmem | hmem
      · exact hmem
      · exact absurd (List.dropWhile_subset _ hmem) h
  · intro hmem
    exact List.mem_append_left _ (List.mem_append_left _ hmem)

theorem nameFor_ne_empty (extension name : String) :
    (ofExtension extension).nameFor name ≠ "" := by
  rw [nameFor_ofExtension]
  intro h
  have hlist := congrArg String.toList h
  simp at hlist

-- ============================================================ collisions

/-- The file name for a longer name is longer. -/
theorem length_nameFor_lt {name longer : String}
    (h : name.toList.length < longer.toList.length)
    (extension : String) :
    ((ofExtension extension).nameFor name).toList.length
      < ((ofExtension extension).nameFor longer).toList.length := by
  have hfilled := length_fill_le (Nat.le_of_lt h)
    (extension.toList.dropWhile (· == '.'))
  rw [nameFor_ofExtension, nameFor_ofExtension]
  simp only [String.toList_append, List.length_append,
    String.toList_ofList]
  omega

/-- Different names give different file names, also where they hold dots
or the placeholder, or the extension does. -/
theorem nameFor_injective (extension : String) :
    Function.Injective (ofExtension extension).nameFor := by
  intro a b h
  have hsame := congrArg (fun name : String => name.toList.length) h
  have hlength : a.toList.length = b.toList.length := by
    rcases Nat.lt_trichotomy a.toList.length b.toList.length
      with hlt | heq | hgt
    · exact absurd hsame (Nat.ne_of_lt (length_nameFor_lt hlt extension))
    · exact heq
    · exact absurd hsame (Nat.ne_of_gt (length_nameFor_lt hgt extension))
  -- names of one length stand in front of file names that agree
  rw [nameFor_ofExtension, nameFor_ofExtension] at h
  have hlists := String.toList_inj.2 h
  simp only [String.append_assoc, String.toList_append] at hlists
  exact String.toList_inj.1 (List.append_inj hlists hlength).1

-- ============================================================== patterns

/-- Dots in front of an extension do not count, however many. -/
theorem ofExtension_dots (count : Nat) (extension : String) :
    ofExtension (String.ofList (List.replicate count '.') ++ extension)
      = ofExtension extension := by
  have hdots : ∀ c ∈ List.replicate count '.', (c == '.') = true := by
    intro c hc
    rw [List.eq_of_mem_replicate hc]
    rfl
  rw [ofExtension, String.toList_append, String.toList_ofList,
    List.dropWhile_append_of_pos hdots, ofExtension]

/-- The file name for a name is the name, a dot, and the extension with
the name in the place of every placeholder: what is left of the extension
without its dots has one outline, which is the same for all names.
Different names have different file names, and more dots in front of the
extension make no difference. -/
theorem nameFor_outlined (extension : String) :
    (∃ outline : Outline,
      outline.filled placeholder
          = extension.toList.dropWhile (· == '.')
        ∧ (∀ other : Outline,
            other.filled placeholder
                = extension.toList.dropWhile (· == '.') →
            other = outline)
        ∧ ∀ name : String,
            (ofExtension extension).nameFor name
              = name ++ "."
                ++ String.ofList (outline.filled name.toList))
    ∧ Function.Injective (ofExtension extension).nameFor
    ∧ ∀ count : Nat,
        ofExtension
            (String.ofList (List.replicate count '.') ++ extension)
          = ofExtension extension := by
  obtain ⟨outline, houtline⟩ :=
    exists_outline (extension.toList.dropWhile (· == '.'))
  refine ⟨⟨outline, houtline, ?_, ?_⟩, nameFor_injective extension,
    fun count => ofExtension_dots count extension⟩
  · intro other hother
    exact filled_injective (hother.trans houtline.symm)
  · intro name
    rw [nameFor_ofExtension, ← houtline, fill_filled]

/-- The extension `.{{@key}}{@key}}.{{@key{{@key}}`. It has two
placeholders, a third one that lacks its first letter, and a fourth one
that lacks its last two. -/
def deceptiveExtension : String :=
  ".\x7b\x7b@key\x7d\x7d\x7b@key\x7d\x7d.\x7b\x7b@key\x7b\x7b@key\x7d\x7d"

/-- What the extension is without its dot and its placeholders. -/
def deceptiveOutline : Outline :=
  .before [] (by decide)
    (.before "\x7b@key\x7d\x7d.\x7b\x7b@key".toList (by decide)
      (.last [] (by decide)))

/-- A name that holds a placeholder, and ends with the letter that the
third one lacks. Neither of the two is filled. -/
theorem nameFor_outlined_deceptive :
    deceptiveOutline.filled placeholder
        = deceptiveExtension.toList.dropWhile (· == '.')
      ∧ (ofExtension deceptiveExtension).nameFor
          "\x7b\x7b@key\x7d\x7d\x7b"
        = "\x7b\x7b@key\x7d\x7d\x7b." ++ "\x7b\x7b@key\x7d\x7d\x7b"
          ++ "\x7b@key\x7d\x7d.\x7b\x7b@key"
          ++ "\x7b\x7b@key\x7d\x7d\x7b"
      ∧ ofExtension (".." ++ deceptiveExtension)
        = ofExtension deceptiveExtension := by
  have hcut : deceptiveOutline.filled placeholder
      = deceptiveExtension.toList.dropWhile (· == '.') := by decide
  obtain ⟨⟨outline, -, honly, hname⟩, -, hdots⟩ :=
    nameFor_outlined deceptiveExtension
  have houtline : deceptiveOutline = outline := honly _ hcut
  refine ⟨hcut, ?_, hdots 2⟩
  rw [hname, ← houtline]
  decide

end SchemaPress.NamePattern
