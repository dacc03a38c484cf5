/-
What generation reads, and what it takes to read the same again.

Generation reads the document, which is looked for in two places, and the
file of a template if there is one. A later tree spares some paths
(`FileTree.Spares`) if no directory is gone and nothing is different
where these paths led, except that a directory may be where nothing was.
If a tree spares the sources, then what was generated once is generated
again (`Options.generateFrom_of_spares`).

The place that comes second has a say only if the first is no file, so
the first must not have become one: it must have led somewhere before.
It did, since the two places are in one directory
(`FileTree.exists_locate_sibling`).
-/
import SchemaPress.Proofs.Disk.Written
import SchemaPress.Proofs.Generation.Pipeline

namespace SchemaPress

namespace FileTree

variable {t after : FileTree} {a b : Address}

-- ============================================================== siblings

theorem locate_eq_ok_iff {path : String} (hpath : path ≠ "") :
    t.locate path = .ok a
      ↔ '\x00' ∉ path.toList ∧ t.reach path = .ok a := by
  have hempty : path.isEmpty = false := by simpa using hpath
  unfold locate
  rw [hempty, List.contains_eq_mem]
  by_cases hname : '\x00' ∈ path.toList
  · simp [hname]
  · simp [hname, reach, start]

/-- From a directory every step leads somewhere. -/
theorem exists_step {name : String} (h : t.step a name = .ok b)
    (other : String) : ∃ c, t.step a other = .ok c := by
  rw [step, directory_of_step h]
  dsimp only
  split
  · exact ⟨_, rfl⟩
  · split
    · exact ⟨_, rfl⟩
    · exact ⟨_, rfl⟩

/-- If a name behind a path leads somewhere, so does another one. -/
theorem exists_locate_sibling {name other directory : String}
    (hname : name ≠ "" ∧ '/' ∉ name.toList)
    (hother : other ≠ "" ∧ '/' ∉ other.toList)
    (hnul : '\x00' ∈ other.toList → '\x00' ∈ name.toList)
    (h : t.locate (Path.join directory name) = .ok a) :
    ∃ b, t.locate (Path.join directory other) = .ok b := by
  have hletter : '\x00' ≠ '/' := by decide
  have hpath : ∀ {name : String}, name ≠ "" ∧ '/' ∉ name.toList →
      Path.join directory name ≠ "" := by
    intro name hname hjoin
    have hsteps := steps_join hname.1 hname.2 directory
    rw [hjoin] at hsteps
    exact List.append_ne_nil_of_right_ne_nil _ (by simp) hsteps.symm
  rw [locate_eq_ok_iff (hpath hname), reach_join hname.1 hname.2,
    Path.mem_join_iff hletter (Path.isAbsolute_of_not_mem hname.2)] at h
  obtain ⟨hnotMem, hreach⟩ := h
  obtain ⟨c, hdirectory, hstep⟩ := exists_of_bind_eq_ok hreach
  obtain ⟨b, hstep'⟩ := exists_step hstep other
  refine ⟨b, ?_⟩
  rw [locate_eq_ok_iff (hpath hother), reach_join hother.1 hother.2,
    Path.mem_join_iff hletter (Path.isAbsolute_of_not_mem hother.2),
    hdirectory]
  exact ⟨fun hmem => hnotMem (hmem.imp_right hnul), hstep'⟩

-- =============================================================== sparing

theorem visit_of_locate {path : String} (h : t.locate path = .ok a) :
    t.visit path
      = match t.entryAt? a with
        | none => .error .notFound
        | some (.file content) =>
            if asksForDirectory path then .error .notADirectory
            else .ok (a, .file content)
        | some .directory => .ok (a, .directory) := by
  rw [visit, h]
  rfl

/-- What a path leads to, with its address, stands there. -/
theorem visit_eq_ok {path : String} {entry : Entry}
    (h : t.visit path = .ok (a, entry)) :
    t.locate path = .ok a ∧ t.entryAt? a = some entry := by
  obtain ⟨b, hlocate, h⟩ := exists_of_bind_eq_ok h
  split at h
  · cases h
  · next content hentry =>
      split at h
      · cases h
      · cases h
        exact ⟨hlocate, hentry⟩
  · next hentry =>
      cases h
      exact ⟨hlocate, hentry⟩

/-- A later tree in which no directory is gone, and nothing is different
where some paths led, except that a directory may be where nothing
was. -/
structure Spares (before after : FileTree) (paths : List String) :
    Prop where
  here_eq : after.here = before.here
  directory : ∀ a, before.entryAt? a = some .directory →
    after.entryAt? a = some .directory
  entry : ∀ path ∈ paths, ∀ a, before.locate path = .ok a →
    after.entryAt? a = before.entryAt? a
      ∨ (before.entryAt? a = none ∧ after.entryAt? a = some .directory)

theorem exists_locate_of_isFile {path : String}
    (h : t.isFile path = true) : ∃ a, t.locate path = .ok a := by
  unfold isFile at h
  split at h
  · next a content hvisit => exact ⟨a, (visit_eq_ok hvisit).1⟩
  · cases h

namespace Spares

variable {paths : List String} {path : String}

theorem locate (h : t.Spares after paths) (hpath : t.locate path = .ok a) :
    after.locate path = .ok a :=
  locate_mono h.here_eq h.directory hpath

/-- What a spared path leads to is there still. -/
theorem visit (h : t.Spares after paths) (hpath : path ∈ paths)
    {entry : Entry} (hvisit : t.visit path = .ok (a, entry)) :
    after.visit path = .ok (a, entry) := by
  obtain ⟨hlocate, hentry⟩ := visit_eq_ok hvisit
  have hsame : after.entryAt? a = t.entryAt? a := by
    rcases h.entry path hpath a hlocate with hsame | ⟨hnone, -⟩
    · exact hsame
    · rw [hentry] at hnone
      cases hnone
  rw [← hvisit, visit_of_locate (h.locate hlocate),
    visit_of_locate hlocate, hsame]

/-- A spared file is read as it was. -/
theorem read (h : t.Spares after paths) (hpath : path ∈ paths)
    {text : String} (hread : t.read path = .ok text) :
    after.read path = .ok text := by
  obtain ⟨⟨a, entry⟩, hvisit, hread'⟩ := exists_of_bind_eq_ok hread
  rw [FileTree.read, h.visit hpath hvisit]
  exact hread'

/-- A spared path that led somewhere leads to a file if it did. -/
theorem isFile (h : t.Spares after paths) (hpath : path ∈ paths)
    (hlocate : t.locate path = .ok a) :
    after.isFile path = t.isFile path := by
  rw [FileTree.isFile, FileTree.isFile, visit_of_locate hlocate,
    visit_of_locate (h.locate hlocate)]
  rcases h.entry path hpath a hlocate with hsame | ⟨hnone, hdirectory⟩
  · rw [hsame]
  · rw [hnone, hdirectory]

end Spares

end FileTree

-- =============================================================== reading

namespace Location

/-- The places where the document is looked for. -/
def candidates (location : Location) : List String :=
  [location.documentPath, location.alternativePath]

variable {t after : FileTree} {location : Location} {models : Models}

/-- The second place is looked at only if the first leads somewhere. -/
theorem exists_locate_documentPath {a : Address}
    (hslash : '/' ∉ location.name.toList)
    (h : t.locate location.alternativePath = .ok a) :
    ∃ b, t.locate location.documentPath = .ok b := by
  refine FileTree.exists_locate_sibling ?_ ?_ ?_ h
  · simp [hslash]
  · simp [hslash]
  · simp

/-- The document that is found is one of the two. -/
theorem mem_candidates_of_findIn {path : String}
    (h : location.findIn t = some path) : path ∈ location.candidates := by
  unfold findIn at h
  split at h
  · cases h
    exact List.mem_cons_self ..
  · split at h
    · cases h
      exact List.mem_cons_of_mem _ (List.mem_cons_self ..)
    · cases h

/-- The same document is found where the places are spared. -/
theorem findIn_of_spares (hslash : '/' ∉ location.name.toList)
    (h : t.Spares after location.candidates) {path : String}
    (hfind : location.findIn t = some path) :
    location.findIn after = some path := by
  have hfirst : location.documentPath ∈ location.candidates :=
    List.mem_cons_self ..
  have hsecond : location.alternativePath ∈ location.candidates :=
    List.mem_cons_of_mem _ (List.mem_cons_self ..)
  rw [← hfind]
  unfold findIn at hfind ⊢
  by_cases hdocument : t.isFile location.documentPath = true
  · obtain ⟨a, ha⟩ := FileTree.exists_locate_of_isFile hdocument
    rw [h.isFile hfirst ha, if_pos hdocument, if_pos hdocument]
  · rw [if_neg hdocument] at hfind
    split at hfind
    · next halternative =>
        obtain ⟨a, ha⟩ := FileTree.exists_locate_of_isFile halternative
        obtain ⟨b, hb⟩ := exists_locate_documentPath hslash ha
        rw [h.isFile hfirst hb, h.isFile hsecond ha]
    · cases hfind

theorem loadFrom_eq_ok_iff :
    location.loadFrom t = .ok models
      ↔ ∃ path text, location.findIn t = some path
        ∧ t.read path = .ok text ∧ Models.ofText text = .ok models := by
  unfold loadFrom
  cases location.findIn t with
  | none => simp
  | some path =>
      cases hread : t.read path with
      | error e => simp [hread]
      | ok text =>
          cases hmodels : Models.ofText text with
          | error reason => simp [hread, hmodels]
          | ok found => simp [hread, hmodels]

/-- The same models are loaded where the places are spared. -/
theorem loadFrom_of_spares (hslash : '/' ∉ location.name.toList)
    (h : t.Spares after location.candidates)
    (hload : location.loadFrom t = .ok models) :
    location.loadFrom after = .ok models := by
  obtain ⟨path, text, hfind, hread, hmodels⟩ := loadFrom_eq_ok_iff.1 hload
  exact loadFrom_eq_ok_iff.2 ⟨path, text,
    findIn_of_spares hslash h hfind,
    h.read (mem_candidates_of_findIn hfind) hread, hmodels⟩

end Location

namespace TemplateOrigin

/-- The file that a template is read from, if it is in a file. -/
def sources : TemplateOrigin → List String
  | .builtIn => []
  | .file path _ => [path]

end TemplateOrigin

namespace Options

/-- What options read: the document, in either place, and the file of the
template if there is one. -/
def sources (options : Options) : List String :=
  options.document.candidates ++ options.template.sources

end Options

end SchemaPress
