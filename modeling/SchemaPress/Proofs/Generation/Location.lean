/-
Locations and the paths of their documents.

The name of a location that is read from a path holds neither a dot nor a
slash: it is cut off at the first dot, and a file name holds no slash. For
such a name, the path of the document leads back to the location. Its file
name is the name with an extension, which is cut off again, and its parent
is the directory without the void components at its end
(`ofPath_documentPath_eq`).

A directory that has been read from a path has no void at its end, so it
is found again letter by letter. Any other directory is found again as
far as it is a path: the void components at its end lead nowhere.
-/
import SchemaPress.Generation.Location
import SchemaPress.Proofs.Path.Joining

namespace SchemaPress.Location

-- ================================================================== names

theorem slash_notMem_of_fileName? {path name : String}
    (h : Path.fileName? path = some name) : '/' ∉ name.toList := by
  unfold Path.fileName? at h
  split at h
  · next segment hlast =>
      split at h
      · cases h
      · cases h
        have hmem := List.mem_of_getLast? hlast
        rw [String.toList_ofList]
        have hsegment : segment
            ∈ Path.segments (Path.splitHead path.toList).2 :=
          List.mem_reverse.1
            (List.dropWhile_subset _ (List.mem_reverse.1 hmem))
        exact Path.slash_notMem_of_mem_segments hsegment
  · cases h

/-- The name of a document that is given by its path has no slash. -/
theorem slash_notMem_name_ofPath (path : String) :
    '/' ∉ (ofPath path).name.toList := by
  unfold ofPath stem
  rw [String.toList_ofList]
  intro hmem
  have hname := List.takeWhile_subset _ hmem
  cases hfile : Path.fileName? path with
  | none =>
      rw [hfile] at hname
      cases hname
  | some name =>
      rw [hfile] at hname
      exact slash_notMem_of_fileName? hfile hname

/-- The name of a document that is given by its path has no dot. -/
theorem dot_notMem_name_ofPath (path : String) :
    '.' ∉ (ofPath path).name.toList := by
  unfold ofPath stem
  rw [String.toList_ofList]
  intro hmem
  have hall := List.all_takeWhile (p := (· != '.'))
    (l := ((Path.fileName? path).getD "").toList)
  simpa using List.all_eq_true.1 hall _ hmem

/-- A name without dot is what the file name of a document is cut off
to. -/
theorem stem_document {name : String} (h : '.' ∉ name.toList) :
    stem (name ++ ".yml") = name := by
  have hkeep : ∀ c ∈ name.toList, (c != '.') = true := by
    simpa using List.forall_mem_ne'.2 h
  have hfile : (name ++ ".yml").toList
      = name.toList ++ ['.', 'y', 'm', 'l'] := String.toList_append
  rw [stem, hfile, List.takeWhile_append_of_pos hkeep,
    List.takeWhile_cons_of_neg (by decide), List.append_nil,
    String.ofList_toList]

-- ================================================================== paths

/-- The directory of a path has no void at its end. -/
theorem trimmed_directory_ofPath (path : String) :
    Path.trimmed (ofPath path).directory = (ofPath path).directory := by
  unfold ofPath
  cases hparent : Path.parent? path with
  | none => rfl
  | some directory => exact Path.trimmed_of_parent? hparent

/-- The document is looked for under a file name. -/
theorem document_bare {name : String} (h : '/' ∉ name.toList) :
    '/' ∉ (name ++ ".yml").toList
      ∧ ¬ Path.isVoid (name ++ ".yml").toList
      ∧ (name ++ ".yml").toList ≠ ['.', '.'] := by
  have hfile : (name ++ ".yml").toList
      = name.toList ++ ['.', 'y', 'm', 'l'] := String.toList_append
  have hlength : 4 ≤ (name ++ ".yml").toList.length := by
    rw [hfile, List.length_append]
    exact Nat.le_add_left 4 _
  refine ⟨?_, ?_, ?_⟩
  · rw [hfile, List.mem_append, not_or]
    exact ⟨h, by decide⟩
  · -- what is void has no more than one letter
    intro hvoid
    rw [Path.isVoid, Bool.or_eq_true, List.isEmpty_iff, beq_iff_eq]
      at hvoid
    rcases hvoid with hvoid | hvoid <;> simp [hvoid] at hlength
  · intro hup
    simp [hup] at hlength

/-- The path of a document leads back to its location, but for the void
at the end of the directory. -/
theorem ofPath_documentPath_eq (location : Location)
    (hdot : '.' ∉ location.name.toList)
    (hslash : '/' ∉ location.name.toList) :
    ofPath location.documentPath
      = ⟨Path.trimmed location.directory, location.name⟩ := by
  obtain ⟨hbare, hvoid, hup⟩ := document_bare hslash
  rw [ofPath, documentPath, Path.parent?_join hbare hvoid,
    Path.fileName?_join hbare hvoid hup, Option.getD_some,
    Option.getD_some, stem_document hdot]

/-- A location that is read from a path has a name without dot and
without slash, and the path of its document leads back to it, letter by
letter. Any directory with any such name comes back, too, the directory
as the same path. -/
theorem ofPath_documentPath_stable :
    (∀ path : String,
      '.' ∉ (ofPath path).name.toList ∧ '/' ∉ (ofPath path).name.toList
      ∧ ofPath (ofPath path).documentPath = ofPath path)
    ∧ ∀ directory name : String, '.' ∉ name.toList → '/' ∉ name.toList →
        (ofPath (documentPath ⟨directory, name⟩)).name = name
        ∧ Path.components
            (ofPath (documentPath ⟨directory, name⟩)).directory
          = Path.components directory := by
  constructor
  · intro path
    have hdot := dot_notMem_name_ofPath path
    have hslash := slash_notMem_name_ofPath path
    refine ⟨hdot, hslash, ?_⟩
    rw [ofPath_documentPath_eq _ hdot hslash, trimmed_directory_ofPath]
  · intro directory name hdot hslash
    rw [ofPath_documentPath_eq ⟨directory, name⟩ hdot hslash]
    exact ⟨rfl, Path.components_trimmed directory⟩

/-- A directory that starts in place, goes up and ends in void, and a
document without a name. The path of the document has another directory,
which is the same path, and leads back to that. -/
theorem ofPath_documentPath_stable_winding :
    documentPath ⟨".//specs/../v1/.//", ""⟩ = ".//specs/../v1/.//.yml"
      ∧ ofPath ".//specs/../v1/.//.yml" = ⟨".//specs/../v1", ""⟩
      ∧ Path.components ".//specs/../v1"
        = Path.components ".//specs/../v1/.//"
      ∧ ofPath (documentPath ⟨".//specs/../v1", ""⟩)
        = ⟨".//specs/../v1", ""⟩ := by
  have hdocument : documentPath ⟨".//specs/../v1/.//", ""⟩
      = ".//specs/../v1/.//.yml" := by decide
  have hlocation : ofPath ".//specs/../v1/.//.yml"
      = ⟨".//specs/../v1", ""⟩ := by decide
  obtain ⟨-, hsame⟩ := ofPath_documentPath_stable.2 ".//specs/../v1/.//" ""
    (by decide) (by decide)
  obtain ⟨-, -, hback⟩ :=
    ofPath_documentPath_stable.1 ".//specs/../v1/.//.yml"
  rw [hdocument, hlocation] at hsame
  rw [hlocation] at hback
  exact ⟨hdocument, hlocation, hsame, hback⟩

end SchemaPress.Location
