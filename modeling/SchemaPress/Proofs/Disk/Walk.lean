/-
Where paths lead.

A walk goes from directory to directory, and only its end may be
anything. So a walk that succeeds in a tree leads to the same place in
every tree that has the directories of the first (`walk_mono`), and its
end is a directory or stands in one (`walk_stands`), provided the tree is
one.

A name without slash behind a path is one more step from where the path
leads (`reach_join`). Such names lead apart as long as none of them leads
to a directory, as the two that do not count as names do
(`locate_join_inj`).
-/
import SchemaPress.Disk.Tree
import SchemaPress.Proofs.Outcome
import SchemaPress.Proofs.Path

namespace SchemaPress.FileTree

variable {t t' : FileTree} {a b : Address}

-- ================================================================= trees

theorem mem_of_find? {entry : Entry} {entries : List (Address × Entry)}
    (h : find? a entries = some entry) : (a, entry) ∈ entries := by
  induction entries with
  | nil => cases h
  | cons first rest ih =>
      rw [find?] at h
      split at h
      · next hsame =>
          cases h
          rw [← hsame]
          exact List.mem_cons_self ..
      · exact List.mem_cons_of_mem _ (ih h)

/-- That a tree is one can be seen from its list of entries. -/
theorem isTree_of_forall
    (h : ∀ entry ∈ t.entries,
      t.entryAt? entry.1.dropLast = some .directory) : t.IsTree := by
  intro above name hsome
  obtain ⟨entry, hentry⟩ := Option.isSome_iff_exists.1 hsome
  rw [entryAt?, if_neg (by simp)] at hentry
  have hdirectory := h _ (mem_of_find? hentry)
  rw [List.dropLast_concat] at hdirectory
  exact hdirectory

-- ================================================================= steps

theorem directory_of_step {name : String} (h : t.step a name = .ok b) :
    t.entryAt? a = some .directory := by
  unfold step at h
  split at h
  · cases h
  · cases h
  · next hentry => exact hentry

/-- What a step from a directory leads to. -/
theorem step_cases {name : String} (h : t.step a name = .ok b) :
    (name = "." ∧ b = a) ∨ (name = ".." ∧ b = a.dropLast)
      ∨ b = a ++ [name] := by
  rw [step, directory_of_step h] at h
  simp only at h
  split at h
  · next hname =>
      cases h
      exact .inl ⟨hname, rfl⟩
  · split at h
    · next hname =>
        cases h
        exact .inr (.inl ⟨hname, rfl⟩)
    · cases h
      exact .inr (.inr rfl)

theorem IsTree.dropLast (htree : t.IsTree)
    (h : t.entryAt? a = some .directory) :
    t.entryAt? a.dropLast = some .directory := by
  rcases List.eq_nil_or_concat a with rfl | ⟨above, name, rfl⟩
  · exact h
  · rw [List.concat_eq_append, List.dropLast_concat]
    refine htree above name ?_
    rw [← List.concat_eq_append, h]
    rfl

/-- A step leads to a directory or to something new in the directory it
starts at. -/
theorem step_stands (htree : t.IsTree) {name : String}
    (h : t.step a name = .ok b) :
    t.entryAt? b = some .directory ∨ b = a ++ [name] := by
  have hdirectory := directory_of_step h
  rcases step_cases h with ⟨-, rfl⟩ | ⟨-, rfl⟩ | rfl
  · exact .inl hdirectory
  · exact .inl (htree.dropLast hdirectory)
  · exact .inr rfl

/-- Steps from one place to something that is no directory have one
name. -/
theorem step_inj {name other : String}
    (hnot : t.entryAt? b ≠ some .directory)
    (h : t.step a name = .ok b) (hother : t.step a other = .ok b) :
    name = other := by
  have hdirectory := directory_of_step h
  have hne : b ≠ a := by
    rintro rfl
    exact hnot hdirectory
  have hup : ∀ last : String, a.dropLast ≠ a ++ [last] := by
    intro last hsame
    have hlength := congrArg List.length hsame
    rw [List.length_dropLast, List.length_append,
      List.length_singleton] at hlength
    omega
  rcases step_cases h with ⟨-, hb⟩ | ⟨rfl, rfl⟩ | rfl
  · exact absurd hb hne
  · rcases step_cases hother with ⟨-, hb⟩ | ⟨rfl, -⟩ | hb
    · exact absurd hb hne
    · rfl
    · exact absurd hb (hup other)
  · rcases step_cases hother with ⟨-, hb⟩ | ⟨-, hb⟩ | hb
    · exact absurd hb hne
    · exact absurd hb.symm (hup name)
    · exact List.singleton_inj.1 (List.append_cancel_left hb)

/-- A step leads to the same place wherever its start is a directory. -/
theorem step_mono {name : String} (h : t.step a name = .ok b)
    (hdirectory : t'.entryAt? a = some .directory) :
    t'.step a name = .ok b := by
  rw [step, directory_of_step h] at h
  rw [step, hdirectory]
  exact h

-- ================================================================= walks

/-- A walk along two lists is a walk along the one and then the other. -/
theorem walk_append (t : FileTree) (names more : List String)
    (a : Address) :
    t.walk a (names ++ more)
      = (t.walk a names >>= fun b => t.walk b more) := by
  induction names generalizing a with
  | nil => rfl
  | cons name rest ih =>
      rw [List.cons_append, walk, walk]
      cases t.step a name with
      | error e => rfl
      | ok b => exact ih b

theorem walk_singleton (t : FileTree) (a : Address) (name : String) :
    t.walk a [name] = t.step a name := by
  rw [walk]
  cases t.step a name with
  | error e => rfl
  | ok b => rfl

/-- A walk leads to the same place in a tree that has the directories of
the first. -/
theorem walk_mono
    (hkept : ∀ c, t.entryAt? c = some .directory →
      t'.entryAt? c = some .directory)
    {names : List String} (h : t.walk a names = .ok b) :
    t'.walk a names = .ok b := by
  induction names generalizing a with
  | nil => exact h
  | cons name rest ih =>
      rw [walk] at h ⊢
      obtain ⟨c, hstep, h⟩ := exists_of_bind_eq_ok h
      rw [step_mono hstep (hkept a (directory_of_step hstep))]
      exact ih h

/-- The end of a walk with at least one step is a directory or stands in
one. -/
theorem walk_stands (htree : t.IsTree) {names : List String}
    (hne : names ≠ []) (h : t.walk a names = .ok b) :
    t.entryAt? b = some .directory
      ∨ ∃ c name, b = c ++ [name] ∧ t.entryAt? c = some .directory := by
  rcases List.eq_nil_or_concat names with rfl | ⟨front, name, rfl⟩
  · exact absurd rfl hne
  · rw [List.concat_eq_append, walk_append] at h
    obtain ⟨c, -, h⟩ := exists_of_bind_eq_ok h
    rw [walk_singleton] at h
    rcases step_stands htree h with hdirectory | rfl
    · exact .inl hdirectory
    · exact .inr ⟨c, name, rfl, directory_of_step h⟩

-- ================================================================= paths

/-- Where a path starts. -/
def start (t : FileTree) (path : String) : Address :=
  if Path.isAbsolute path.toList then [] else t.here

/-- Where the steps of a path lead; the empty path leads nowhere else
than it starts. -/
def reach (t : FileTree) (path : String) : Except DiskError Address :=
  t.walk (t.start path) (steps path)

theorem reach_of_locate {path : String} (h : t.locate path = .ok a) :
    t.reach path = .ok a := by
  unfold locate at h
  split at h
  · cases h
  · split at h
    · cases h
    · exact h

/-- A path leads to the same place in a tree that has the directories of
the first. -/
theorem reach_mono (hhere : t'.here = t.here)
    (hkept : ∀ c, t.entryAt? c = some .directory →
      t'.entryAt? c = some .directory)
    {path : String} (h : t.reach path = .ok a) :
    t'.reach path = .ok a := by
  unfold reach start at h ⊢
  rw [hhere]
  exact walk_mono hkept h

/-- The text of a file that a path leads to is read. -/
theorem read_of_locate {path text : String}
    (h : t.locate path = .ok a)
    (htext : t.entryAt? a = some (.file (.text text)))
    (hfile : asksForDirectory path = false) :
    t.read path = .ok text := by
  simp [read, visit, h, htext, hfile, bind, Except.bind]

/-- A path that is not absolute has at least one step. -/
theorem steps_ne_nil {path : String} (hpath : path ≠ "")
    (hrelative : Path.isAbsolute path.toList = false) :
    steps path ≠ [] := by
  unfold steps
  cases hlist : path.toList with
  | nil => exact absurd (String.toList_eq_nil_iff.1 hlist) hpath
  | cons c rest =>
      have hc : c ≠ '/' := by
        intro hc
        rw [hlist, hc] at hrelative
        cases hrelative
      obtain ⟨segment, more, hsegments⟩ := Path.exists_segments_cons hc rest
      rw [hsegments, List.filter_cons_of_pos (by rfl), List.map_cons]
      exact nofun

/-- The address of a path is that of a directory or stands in one. -/
theorem locate_stands (htree : t.IsTree) {path : String}
    (h : t.locate path = .ok a) :
    t.entryAt? a = some .directory
      ∨ ∃ c name, a = c ++ [name] ∧ t.entryAt? c = some .directory := by
  have hreach := reach_of_locate h
  have hpath : path ≠ "" := by
    intro hpath
    rw [hpath] at h
    cases h
  unfold reach start at hreach
  cases habsolute : Path.isAbsolute path.toList with
  | false =>
      exact walk_stands htree (steps_ne_nil hpath habsolute) hreach
  | true =>
      rw [habsolute, if_pos rfl] at hreach
      by_cases hsteps : steps path = []
      · rw [hsteps] at hreach
        cases hreach
        exact .inl rfl
      · exact walk_stands htree hsteps hreach

-- =============================================================== joining

/-- A name without slash is one more step behind a path. -/
theorem steps_join {name : String} (hname : name ≠ "")
    (hslash : '/' ∉ name.toList) (directory : String) :
    steps (Path.join directory name) = steps directory ++ [name] := by
  have hsegments := Path.segments_of_not_mem hslash
  have hempty : name.toList.isEmpty = false := by
    rw [List.isEmpty_eq_false_iff]
    exact mt String.toList_eq_nil_iff.1 hname
  have hlast : ∀ front : List Char,
      ((Path.segments (front ++ '/' :: name.toList)).filter fun segment =>
        !segment.isEmpty).map String.ofList
      = ((Path.segments front).filter fun segment =>
        !segment.isEmpty).map String.ofList ++ [name] := by
    intro front
    rw [Path.segments_append, hsegments, List.filter_append,
      List.map_append, List.filter_cons_of_pos (by rw [hempty]; rfl)]
    simp
  rcases Path.join_cases (Path.isAbsolute_of_not_mem hslash) directory with
    ⟨hdirectory, hjoin⟩ | ⟨front, hfront, hjoin⟩ | ⟨-, hjoin⟩
  · rw [steps, steps, hjoin, hsegments, hdirectory,
      List.filter_cons_of_pos (by rw [hempty]; rfl)]
    simp [Path.segments]
  · -- the slash at the end adds an empty segment, which is no step
    rw [steps, steps, hjoin, hfront, hlast, Path.segments_append]
    simp [Path.segments]
  · rw [steps, hjoin]
    exact hlast directory.toList

theorem start_join {name : String} (hslash : '/' ∉ name.toList)
    (t : FileTree) (directory : String) :
    t.start (Path.join directory name) = t.start directory := by
  have hrelative := Path.isAbsolute_of_not_mem hslash
  rw [start, start, Path.isAbsolute_join hrelative]

/-- A name without slash behind a path leads one step further than the
path. -/
theorem reach_join {name : String} (hname : name ≠ "")
    (hslash : '/' ∉ name.toList) (t : FileTree) (directory : String) :
    t.reach (Path.join directory name)
      = (t.reach directory >>= fun a => t.step a name) := by
  unfold reach
  rw [steps_join hname hslash, start_join hslash, walk_append]
  simp only [walk_singleton]

/-- Behind one path, names without slash lead apart, unless they lead to
a directory. -/
theorem locate_join_inj {name other : String} {directory : String}
    (hname : name ≠ "" ∧ '/' ∉ name.toList)
    (hother : other ≠ "" ∧ '/' ∉ other.toList)
    (hnot : t.entryAt? a ≠ some .directory)
    (h : t.locate (Path.join directory name) = .ok a)
    (hsame : t.locate (Path.join directory other) = .ok a) :
    name = other := by
  have hreach := reach_of_locate h
  have hreach' := reach_of_locate hsame
  rw [reach_join hname.1 hname.2] at hreach
  rw [reach_join hother.1 hother.2] at hreach'
  obtain ⟨c, hc, hstep⟩ := exists_of_bind_eq_ok hreach
  rw [hc] at hreach'
  exact step_inj hnot hstep hreach'

/-- A path that ends in a name without slash does not ask for a
directory. -/
theorem asksForDirectory_join {name : String} (hname : name ≠ "")
    (hslash : '/' ∉ name.toList) (directory : String) :
    asksForDirectory (Path.join directory name) = false := by
  obtain ⟨last, hlast⟩ := Option.ne_none_iff_exists'.1
    (mt List.getLast?_eq_none_iff.1 (mt String.toList_eq_nil_iff.1 hname))
  have hne : last ≠ '/' := by
    rintro rfl
    exact hslash (List.mem_of_getLast? hlast)
  obtain ⟨front, hjoin⟩ := Path.exists_join_eq directory name
  rw [asksForDirectory, hjoin, List.getLast?_append, hlast]
  simpa using hne

end SchemaPress.FileTree
