/-
Models by reference. A reference names the model that it ends in: what
follows its last slash, or all of it if there is no slash (`Closes`).
Some references name nothing. They are the ones that are empty or end in
a slash (`referenced?_eq_none_iff`), and from all others the name is read
off as it stands there (`referenced?_eq_some_iff`), so it never holds a
slash.
-/
import Mathlib.Data.List.TakeWhile
import SchemaPress.Shape

namespace SchemaPress.Shape

variable {name reference : String}

/-- A name is what follows the last slash of a reference, or all of a
reference without slash. -/
def Closes (name reference : String) : Prop :=
  '/' ∉ name.toList
    ∧ (reference = name ∨ ∃ front, reference = front ++ "/" ++ name)

theorem ne_slash_of_mem_reverse {text : List Char} (h : '/' ∉ text) :
    ∀ c ∈ text.reverse, (c != '/') = true := by
  simpa using List.forall_mem_ne'.2 h

theorem lastSegment_of_not_mem {text : List Char} (h : '/' ∉ text) :
    lastSegment text = text := by
  rw [lastSegment,
    List.takeWhile_eq_self_iff.2 (ne_slash_of_mem_reverse h),
    List.reverse_reverse]

theorem lastSegment_append {text : List Char} (h : '/' ∉ text)
    (front : List Char) : lastSegment (front ++ '/' :: text) = text := by
  have hreverse : (front ++ '/' :: text).reverse
      = text.reverse ++ '/' :: front.reverse := by simp
  rw [lastSegment, hreverse,
    List.takeWhile_append_of_pos (ne_slash_of_mem_reverse h),
    List.takeWhile_cons_of_neg (by decide), List.append_nil,
    List.reverse_reverse]

/-- In front of the last segment there is a slash, if there is
anything. -/
theorem eq_append_lastSegment (text : List Char) :
    text = lastSegment text
      ∨ ∃ front, text = front ++ '/' :: lastSegment text := by
  have hsplit := List.takeWhile_append_dropWhile
    (p := (· != '/')) (l := text.reverse)
  have hback : text = (text.reverse.dropWhile (· != '/')).reverse
      ++ lastSegment text := by
    rw [lastSegment, ← List.reverse_append, hsplit, List.reverse_reverse]
  cases hdrop : text.reverse.dropWhile (· != '/') with
  | nil =>
      rw [hdrop] at hback
      exact .inl hback
  | cons c rest =>
      -- only a slash stops the way back from the end
      have hc : c = '/' := by
        have hfirst := List.head?_dropWhile_not (· != '/') text.reverse
        rw [hdrop] at hfirst
        simpa using hfirst
      rw [hdrop, hc, List.reverse_cons, List.append_assoc] at hback
      exact .inr ⟨rest.reverse, hback⟩

/-- The name that closes a reference is its last segment. -/
theorem closes_iff : Closes name reference
    ↔ name.toList = lastSegment reference.toList := by
  constructor
  · rintro ⟨hslash, rfl | ⟨front, rfl⟩⟩
    · exact (lastSegment_of_not_mem hslash).symm
    · have htext : (front ++ "/" ++ name).toList
          = front.toList ++ '/' :: name.toList := by
        simp [String.toList_append]
      rw [htext, lastSegment_append hslash]
  · intro h
    refine ⟨h ▸ slash_notMem_lastSegment _, ?_⟩
    rcases eq_append_lastSegment reference.toList with hall | ⟨front, hfront⟩
    · exact .inl (String.toList_inj.1 (hall.trans h.symm))
    · refine .inr ⟨String.ofList front, String.toList_inj.1 ?_⟩
      rw [hfront, ← h]
      simp [String.toList_append]

/-- A reference names a model if something follows its last slash. -/
theorem referenced?_eq_some_iff : referenced? reference = some name
    ↔ name ≠ "" ∧ Closes name reference := by
  rw [closes_iff, referenced?]
  constructor
  · intro h
    by_cases hempty : (lastSegment reference.toList).isEmpty
    · rw [if_pos hempty] at h
      cases h
    · rw [if_neg hempty, Option.some.injEq] at h
      subst h
      refine ⟨fun h => hempty ?_, String.toList_ofList⟩
      rw [← String.toList_ofList (l := lastSegment _), h]
      rfl
  · rintro ⟨hname, hlast⟩
    have hne : ¬(lastSegment reference.toList).isEmpty := by
      rw [← hlast, List.isEmpty_iff]
      exact fun h => hname (String.toList_inj.1 h)
    rw [if_neg hne, ← hlast, String.ofList_toList]

/-- A reference that names nothing is empty or ends in a slash. -/
theorem referenced?_eq_none_iff : referenced? reference = none
    ↔ reference = "" ∨ ∃ front, reference = front ++ "/" := by
  have hnone : referenced? reference = none
      ↔ lastSegment reference.toList = [] := by
    rw [referenced?]
    simp
  rw [hnone]
  constructor
  · intro h
    have hlast := eq_append_lastSegment reference.toList
    rw [h] at hlast
    rcases hlast with hall | ⟨front, hfront⟩
    · exact .inl (String.toList_inj.1 hall)
    · refine .inr ⟨String.ofList front, String.toList_inj.1 ?_⟩
      rw [hfront]
      simp [String.toList_append]
  · rintro (rfl | ⟨front, rfl⟩)
    · rfl
    · rw [String.toList_append]
      exact lastSegment_append List.not_mem_nil front.toList

end SchemaPress.Shape
