/-
Texts of paths that have been put together.

A slash separates, so the segments of two texts with a slash in between
are those of the one and then those of the other; and a text without
slash is one segment. A path that is not absolute is joined to a directory
with one slash in between, whichever way the directory ends
(`join_cases`).
-/
import SchemaPress.Path

namespace SchemaPress.Path

-- ================================================================ segments

/-- A slash separates segments. -/
theorem segments_append (front rest : List Char) :
    segments (front ++ '/' :: rest) = segments front ++ segments rest := by
  induction front with
  | nil => rfl
  | cons c front ih =>
      rw [List.cons_append, segments, segments, ih]
      by_cases hc : c = '/'
      · rw [if_pos hc, if_pos hc]
        rfl
      · rw [if_neg hc, if_neg hc]
        cases hfront : segments front with
        | nil => exact absurd hfront (segments_ne_nil front)
        | cons segment more => rfl

theorem segments_of_not_mem {text : List Char} (h : '/' ∉ text) :
    segments text = [text] := by
  induction text with
  | nil => rfl
  | cons c rest ih =>
      rw [List.mem_cons, not_or] at h
      rw [segments, if_neg (Ne.symm h.1), ih h.2]

/-- The last segment of a text that ends without slash has the same
end. -/
theorem exists_segments_concat {tail : List Char} (htail : '/' ∉ tail)
    (front : List Char) :
    ∃ before stem, segments (front ++ tail) = before ++ [stem ++ tail] := by
  induction front with
  | nil => exact ⟨[], [], segments_of_not_mem htail⟩
  | cons c front ih =>
      obtain ⟨before, stem, hsegments⟩ := ih
      rw [List.cons_append, segments, hsegments]
      by_cases hc : c = '/'
      · exact ⟨[] :: before, stem, if_pos hc⟩
      · rw [if_neg hc]
        cases before with
        | nil => exact ⟨[], c :: stem, rfl⟩
        | cons first more => exact ⟨(c :: first) :: more, stem, rfl⟩

/-- The first segment of a text that does not start with a slash starts
with its first letter. -/
theorem exists_segments_cons {c : Char} (hc : c ≠ '/')
    (rest : List Char) :
    ∃ segment more, segments (c :: rest) = (c :: segment) :: more := by
  rw [segments, if_neg hc]
  cases hrest : segments rest with
  | nil => exact ⟨[], [], rfl⟩
  | cons segment more => exact ⟨segment, more, rfl⟩

-- ================================================================= joining

theorem isAbsolute_of_not_mem {text : List Char} (h : '/' ∉ text) :
    isAbsolute text = false := by
  cases text with
  | nil => rfl
  | cons c rest =>
      rw [List.mem_cons, not_or] at h
      simpa [isAbsolute] using Ne.symm h.1

/-- What is joined ends as the path behind the directory does. -/
theorem exists_join_eq (directory path : String) :
    ∃ front, (join directory path).toList = front ++ path.toList := by
  unfold join
  dsimp only
  split
  · exact ⟨[], rfl⟩
  · split
    · exact ⟨_, String.toList_append⟩
    · exact ⟨_, String.toList_append⟩

variable {path : String}

/-- What is joined is put behind the directory, with a slash in between
where there is a directory that does not end in one. -/
theorem join_cases (hrelative : isAbsolute path.toList = false)
    (directory : String) :
    (directory.toList = [] ∧ (join directory path).toList = path.toList)
      ∨ (∃ front, directory.toList = front ++ ['/']
          ∧ (join directory path).toList = front ++ '/' :: path.toList)
      ∨ (directory.toList ≠ []
          ∧ (join directory path).toList
            = directory.toList ++ '/' :: path.toList) := by
  unfold join
  rw [hrelative]
  simp only [Bool.false_or]
  split
  · next hempty => exact .inl ⟨List.isEmpty_iff.1 hempty, rfl⟩
  · next hempty =>
      split
      · next hlast =>
          obtain ⟨front, hfront⟩ := List.getLast?_eq_some_iff.1 hlast
          refine .inr (.inl ⟨front, hfront, ?_⟩)
          rw [String.toList_append, hfront, List.append_assoc,
            List.singleton_append]
      · refine .inr (.inr ⟨fun h => hempty (List.isEmpty_iff.2 h), ?_⟩)
        rw [String.toList_append, String.toList_append,
          List.append_assoc]
        rfl

/-- What is joined starts where the directory does. -/
theorem isAbsolute_join (hrelative : isAbsolute path.toList = false)
    (directory : String) :
    isAbsolute (join directory path).toList
      = isAbsolute directory.toList := by
  rcases join_cases hrelative directory with
    ⟨hempty, hjoin⟩ | ⟨front, hfront, hjoin⟩ | ⟨hne, hjoin⟩
  · rw [hjoin, hrelative, hempty]
    rfl
  · rw [hjoin, hfront]
    cases front with
    | nil => rfl
    | cons c front => rfl
  · rw [hjoin]
    cases hdirectory : directory.toList with
    | nil => exact absurd hdirectory hne
    | cons c rest => rfl

/-- What is joined has the letters of both, and slashes. -/
theorem mem_join_iff {c : Char} (hc : c ≠ '/')
    (hrelative : isAbsolute path.toList = false) (directory : String) :
    c ∈ (join directory path).toList
      ↔ c ∈ directory.toList ∨ c ∈ path.toList := by
  rcases join_cases hrelative directory with
    ⟨hempty, hjoin⟩ | ⟨front, hfront, hjoin⟩ | ⟨-, hjoin⟩
  · simp [hempty, hjoin]
  · simp [hfront, hjoin, hc]
  · simp [hjoin, hc]

end SchemaPress.Path
