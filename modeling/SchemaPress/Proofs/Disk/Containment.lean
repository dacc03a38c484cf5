/-
What can have changed on a disk.

`ContainedIn` compares a tree with one from before: apart from
directories that were not there, nothing has changed but entries that
stand in one directory. It is what a run keeps up from its first write to
its last: making any directory preserves it (`ContainedIn.makeDirectory`),
and so does writing a file with a bare name behind the path of the
directory (`ContainedIn.writeContent`).

Both put one entry in the place of something that is no directory, inside
of one. So directories stay, paths lead where they led before, and the
tree stays a tree.
-/
import SchemaPress.Proofs.Disk.Walk
import SchemaPress.Proofs.Outcome

namespace SchemaPress.FileTree

variable {t t' : FileTree} {a c : Address} {name : String}

-- ============================================================== requests

/-- A directory is made where nothing was. -/
theorem makeDirectory_eq_ok {path : String}
    (h : t.makeDirectory path = .ok t') :
    ∃ a, t.locate path = .ok a ∧ t.entryAt? a = none
      ∧ t' = t.set a .directory := by
  obtain ⟨a, hlocate, h⟩ := exists_of_bind_eq_ok h
  split at h
  · cases h
  · next hnone =>
      cases h
      exact ⟨a, hlocate, hnone, rfl⟩

/-- A file is written where no directory was. -/
theorem writeContent_eq_ok {path : String} {content : Content}
    (h : t.writeContent path content = .ok t') :
    ∃ a, t.locate path = .ok a ∧ t.entryAt? a ≠ some .directory
      ∧ t' = t.set a (.file content) := by
  obtain ⟨a, hlocate, h⟩ := exists_of_bind_eq_ok h
  split at h
  · cases h
  · split at h
    · cases h
    · next hdirectory =>
        cases h
        exact ⟨a, hlocate, hdirectory, rfl⟩

-- =============================================================== placing

/-- Directories stay when an entry is put where none of them is. -/
theorem directory_set (hnot : t.entryAt? a ≠ some .directory)
    (entry : Entry) {b : Address}
    (hb : t.entryAt? b = some .directory) :
    (t.set a entry).entryAt? b = some .directory := by
  have hne : a ≠ b := by
    rintro rfl
    exact hnot hb
  rw [entryAt?_set_of_ne hne, hb]

/-- A tree stays one when an entry is put in a directory where no
directory is. -/
theorem IsTree.set (htree : t.IsTree)
    (hc : t.entryAt? c = some .directory)
    (hnot : t.entryAt? (c ++ [name]) ≠ some .directory)
    (entry : Entry) : (t.set (c ++ [name]) entry).IsTree := by
  intro above last hsome
  refine directory_set hnot entry ?_
  by_cases hsame : c ++ [name] = above ++ [last]
  · rw [← (List.append_inj' hsame rfl).1, hc]
  · rw [entryAt?_set_of_ne hsame] at hsome
    exact htree above last hsome

-- =========================================================== containment

/-- Apart from directories that were not there, all that differs from an
earlier tree stands in the directory that a path leads to. -/
structure ContainedIn (before : FileTree) (path : String)
    (t : FileTree) : Prop where
  isTree : t.IsTree
  changes : ∀ b, t.entryAt? b = before.entryAt? b
    ∨ (before.entryAt? b = none ∧ t.entryAt? b = some .directory)
    ∨ ∃ a name, t.reach path = .ok a ∧ b = a ++ [name]

namespace ContainedIn

variable {before : FileTree} {output : String}

theorem refl (htree : t.IsTree) (output : String) :
    t.ContainedIn output t where
  isTree := htree
  changes := fun _ => .inl rfl

/-- What an entry may be put for: a directory for nothing, or anything in
the directory that the path leads to. -/
theorem set (h : before.ContainedIn output t)
    (hc : t.entryAt? c = some .directory)
    (hnot : t.entryAt? (c ++ [name]) ≠ some .directory) {entry : Entry}
    (hentry : (t.entryAt? (c ++ [name]) = none ∧ entry = .directory)
      ∨ t.reach output = .ok c) :
    before.ContainedIn output (t.set (c ++ [name]) entry) := by
  have hhere : (t.set (c ++ [name]) entry).here = t.here := rfl
  have hreach : ∀ {a}, t.reach output = .ok a →
      (t.set (c ++ [name]) entry).reach output = .ok a :=
    reach_mono hhere fun _ => directory_set hnot entry
  refine ⟨h.isTree.set hc hnot entry, ?_⟩
  intro b
  rcases h.changes b with hsame | ⟨hnone, hdirectory⟩ | ⟨a, last, ha, hb⟩
  · by_cases hb : c ++ [name] = b
    · rcases hentry with ⟨hnone, rfl⟩ | houtput
      · refine .inr (.inl ⟨?_, ?_⟩)
        · rw [← hsame, ← hb, hnone]
        · rw [← hb, entryAt?_set_self (by simp)]
      · exact .inr (.inr ⟨c, name, hreach houtput, hb.symm⟩)
    · exact .inl (by rw [entryAt?_set_of_ne hb, hsame])
  · exact .inr (.inl ⟨hnone, directory_set hnot entry hdirectory⟩)
  · exact .inr (.inr ⟨a, last, hreach ha, hb⟩)

/-- Making a directory changes no file, wherever it is. -/
theorem makeDirectory (h : before.ContainedIn output t) {path : String}
    (hmade : t.makeDirectory path = .ok t') :
    before.ContainedIn output t' := by
  obtain ⟨a, hlocate, hnone, rfl⟩ := makeDirectory_eq_ok hmade
  have hnot : t.entryAt? a ≠ some .directory := by
    rw [hnone]
    exact nofun
  rcases locate_stands h.isTree hlocate with hdirectory | ⟨c, name, rfl, hc⟩
  · exact absurd hdirectory hnot
  · exact h.set hc hnot (.inl ⟨hnone, rfl⟩)

/-- Writing a file with a bare name behind the path changes only what
stands in the directory. -/
theorem writeContent (h : before.ContainedIn output t) (hname : name ≠ "")
    (hslash : '/' ∉ name.toList) {content : Content}
    (hwritten : t.writeContent (Path.join output name) content = .ok t') :
    before.ContainedIn output t' := by
  obtain ⟨a, hlocate, hnot, rfl⟩ := writeContent_eq_ok hwritten
  have hreach := reach_of_locate hlocate
  rw [reach_join hname hslash] at hreach
  obtain ⟨c, houtput, hstep⟩ := exists_of_bind_eq_ok hreach
  rcases step_stands h.isTree hstep with hdirectory | rfl
  · exact absurd hdirectory hnot
  · exact h.set (directory_of_step hstep) hnot (.inr houtput)

end ContainedIn

end SchemaPress.FileTree
