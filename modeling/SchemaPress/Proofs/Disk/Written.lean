/-
What writing leaves behind, entry by entry.

`Written` compares a tree with one from before when some directories have
been made on the way to an output directory and some files have been
written after that, one after the other. It accounts for every address:
where directories were made there was nothing and is a directory; where a
file was written there is the text of the last one that was written
there; and everywhere else there is what was there before.

Files go by their paths, and a path is only as good as the tree it is
looked up in. What makes it safe to speak of the paths in the tree at the
end is that no step takes a directory away, so a path that led somewhere
leads there still (`locate_mono`). With this the account grows step by
step: by a directory as long as no file has been written
(`Written.makeDirectory`), and by a file (`Written.writeContent`).
-/
import SchemaPress.Proofs.Disk.Containment

namespace SchemaPress.FileTree

variable {before t t' : FileTree} {a : Address}

-- ================================================================= paths

/-- A path leads to the same place in a tree that has the directories of
the first. -/
theorem locate_mono (hhere : t'.here = t.here)
    (hkept : ∀ c, t.entryAt? c = some .directory →
      t'.entryAt? c = some .directory)
    {path : String} (h : t.locate path = .ok a) :
    t'.locate path = .ok a := by
  unfold locate at h ⊢
  split
  · next hname => rw [if_pos hname] at h; cases h
  · next hname =>
      rw [if_neg hname] at h
      split
      · next hpath => rw [if_pos hpath] at h; cases h
      · next hpath =>
          rw [if_neg hpath] at h
          rw [hhere]
          exact walk_mono hkept h

/-- Paths lead where they led when an entry is put where no directory
is. -/
theorem locate_set (hnot : t.entryAt? a ≠ some .directory) (entry : Entry)
    {path : String} {b : Address} (h : t.locate path = .ok b) :
    (t.set a entry).locate path = .ok b := by
  have hhere : (t.set a entry).here = t.here := rfl
  exact locate_mono hhere (fun _ => directory_set hnot entry) h

/-- The root has no entry that could be replaced. -/
theorem ne_nil_of_not_directory (h : t.entryAt? a ≠ some .directory) :
    a ≠ [] := by
  rintro rfl
  exact h rfl

-- =========================================================== directories

/-- A path leads to a directory if it leads to where one stands, with or
without a slash at its end. -/
theorem isDirectory_iff {path : String} :
    t.isDirectory path = true
      ↔ ∃ a, t.locate path = .ok a ∧ t.entryAt? a = some .directory := by
  unfold isDirectory visit
  cases t.locate path with
  | error e => simp [bind, Except.bind]
  | ok a =>
      cases hentry : t.entryAt? a with
      | none => simp [bind, Except.bind, hentry]
      | some entry =>
          cases entry with
          | directory => simp [bind, Except.bind, hentry]
          | file content =>
              cases asksForDirectory path <;>
                simp [bind, Except.bind, hentry]

theorem isDirectory_set (hnot : t.entryAt? a ≠ some .directory)
    (entry : Entry) {path : String} (h : t.isDirectory path = true) :
    (t.set a entry).isDirectory path = true := by
  obtain ⟨b, hb, hdirectory⟩ := isDirectory_iff.1 h
  exact isDirectory_iff.2
    ⟨b, locate_set hnot entry hb, directory_set hnot entry hdirectory⟩

theorem isDirectory_of_makeDirectory {path : String}
    (h : t.makeDirectory path = .ok t') : t'.isDirectory path = true := by
  obtain ⟨a, hlocate, hnone, rfl⟩ := makeDirectory_eq_ok h
  have hnot : t.entryAt? a ≠ some .directory := by simp [hnone]
  exact isDirectory_iff.2 ⟨a, locate_set hnot _ hlocate,
    entryAt?_set_self (ne_nil_of_not_directory hnot) ..⟩

-- =============================================================== accounts

/-- What is left of a tree from before when directories have been made on
the way to an output directory and then files been written, each given by
its path and its text. -/
structure Written (before : FileTree) (output : String)
    (made : List Address) (files : List (String × String))
    (after : FileTree) : Prop where
  here_eq : after.here = before.here
  /-- Directories are made where nothing was. -/
  made_new : ∀ a ∈ made, before.entryAt? a = none
    ∧ after.entryAt? a = some .directory
  /-- Directories are made for the output directory or one above it. -/
  made_for : ∀ a ∈ made, ∃ path ∈ Disk.ancestors output,
    after.locate path = .ok a
  /-- Where a file was written there is a file. -/
  is_file : ∀ file ∈ files, ∃ a content, after.locate file.1 = .ok a
    ∧ after.entryAt? a = some (.file content)
  /-- A file holds the text that was written to it last. -/
  holds : ∀ front file back a, files = front ++ file :: back →
    after.locate file.1 = .ok a →
    (∀ later ∈ back, after.locate later.1 ≠ .ok a) →
    after.entryAt? a = some (.file (.text file.2))
  unchanged : ∀ b, b ∉ made →
    (∀ file ∈ files, after.locate file.1 ≠ .ok b) →
    after.entryAt? b = before.entryAt? b

namespace Written

variable {output : String} {made : List Address}
  {files : List (String × String)} {after : FileTree}

theorem refl (t : FileTree) (output : String) :
    t.Written output [] [] t where
  here_eq := rfl
  made_new := nofun
  made_for := nofun
  is_file := nofun
  holds := by simp
  unchanged := fun _ _ _ => rfl

/-- The account of one more directory, which is made for the output. -/
theorem makeDirectory (h : before.Written output made [] t)
    {path : String} (hpath : path ∈ Disk.ancestors output)
    (hmade : t.makeDirectory path = .ok t') :
    ∃ a, before.Written output (a :: made) [] t' := by
  obtain ⟨a, hlocate, hnone, rfl⟩ := makeDirectory_eq_ok hmade
  have hnot : t.entryAt? a ≠ some .directory := by simp [hnone]
  have hmono : ∀ {path b}, t.locate path = .ok b →
      (t.set a .directory).locate path = .ok b :=
    locate_set hnot .directory
  have hnew : a ∉ made := fun ha => hnot (h.made_new a ha).2
  refine ⟨a, h.here_eq, ?_, ?_, nofun, by simp, ?_⟩
  · intro b hb
    rcases List.mem_cons.1 hb with rfl | hb
    · refine ⟨?_, entryAt?_set_self (ne_nil_of_not_directory hnot) ..⟩
      rw [← h.unchanged b hnew nofun, hnone]
    · exact ⟨(h.made_new b hb).1, directory_set hnot _ (h.made_new b hb).2⟩
  · intro b hb
    rcases List.mem_cons.1 hb with rfl | hb
    · exact ⟨path, hpath, hmono hlocate⟩
    · obtain ⟨above, habove, hb⟩ := h.made_for b hb
      exact ⟨above, habove, hmono hb⟩
  · intro b hb _
    rw [List.mem_cons, not_or] at hb
    rw [entryAt?_set_of_ne (Ne.symm hb.1), h.unchanged b hb.2 nofun]

/-- The account of one more file. -/
theorem writeContent (h : before.Written output made files t)
    {path text : String}
    (hwritten : t.writeContent path (.text text) = .ok t') :
    before.Written output made (files ++ [(path, text)]) t' := by
  obtain ⟨a, hlocate, hnot, rfl⟩ := writeContent_eq_ok hwritten
  have hmono : ∀ {path b}, t.locate path = .ok b →
      (t.set a (.file (.text text))).locate path = .ok b :=
    locate_set hnot _
  have hself : (t.set a (.file (.text text))).entryAt? a
      = some (.file (.text text)) :=
    entryAt?_set_self (ne_nil_of_not_directory hnot) ..
  refine ⟨h.here_eq, ?_, ?_, ?_, ?_, ?_⟩
  · intro b hb
    exact ⟨(h.made_new b hb).1, directory_set hnot _ (h.made_new b hb).2⟩
  · intro b hb
    obtain ⟨above, habove, hb⟩ := h.made_for b hb
    exact ⟨above, habove, hmono hb⟩
  · intro file hfile
    rcases List.mem_append.1 hfile with hfile | hfile
    · obtain ⟨b, content, hb, hcontent⟩ := h.is_file file hfile
      by_cases hsame : a = b
      · exact ⟨a, _, hsame ▸ hmono hb, hself⟩
      · exact ⟨b, content, hmono hb,
          by rw [entryAt?_set_of_ne hsame, hcontent]⟩
    · rw [List.mem_singleton] at hfile
      subst hfile
      exact ⟨a, _, hmono hlocate, hself⟩
  · intro front file back b hfiles hb hlater
    rcases List.eq_nil_or_concat back with rfl | ⟨rest, last, rfl⟩
    · -- the file is the one that has just been written
      obtain ⟨-, hlast⟩ := List.append_inj' hfiles rfl
      cases hlast
      rw [hmono hlocate] at hb
      cases hb
      exact hself
    · rw [List.concat_eq_append] at hfiles hlater
      rw [← List.cons_append, ← List.append_assoc] at hfiles
      obtain ⟨hfront, hlast⟩ := List.append_inj' hfiles rfl
      cases hlast
      have hmem : file ∈ files := by simp [hfront]
      obtain ⟨c, -, hc, -⟩ := h.is_file file hmem
      have hcb : c = b := by
        have hboth := (hmono hc).symm.trans hb
        cases hboth
        rfl
      subst hcb
      have hne : a ≠ c := by
        rintro rfl
        exact hlater (path, text) (by simp) (hmono hlocate)
      rw [entryAt?_set_of_ne hne]
      refine h.holds front file rest c hfront hc ?_
      intro later hmem hlocated
      exact hlater later (by simp [hmem]) (hmono hlocated)
  · intro b hb hnone
    have hne : a ≠ b := by
      rintro rfl
      exact hnone (path, text) (by simp) (hmono hlocate)
    rw [entryAt?_set_of_ne hne]
    refine h.unchanged b hb ?_
    intro file hfile hlocated
    exact hnone file (by simp [hfile]) (hmono hlocated)

/-- Files that lead apart all keep what was written to them. -/
theorem holds_of_pairwise (h : before.Written output made files after)
    (hapart : files.Pairwise fun file later => ∀ a,
      after.locate file.1 = .ok a → after.locate later.1 ≠ .ok a)
    {file : String × String} (hfile : file ∈ files) :
    ∃ a, after.locate file.1 = .ok a
      ∧ after.entryAt? a = some (.file (.text file.2)) := by
  obtain ⟨a, -, ha, -⟩ := h.is_file file hfile
  obtain ⟨front, back, rfl⟩ := List.append_of_mem hfile
  have hback := (List.pairwise_append.1 hapart).2.1
  have hlater := (List.pairwise_cons.1 hback).1
  exact ⟨a, ha, h.holds front file back a rfl ha fun later hmem =>
    hlater later hmem a ha⟩

end Written

end SchemaPress.FileTree
