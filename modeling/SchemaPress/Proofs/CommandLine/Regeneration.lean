/-
Runs that are repeated.

A run that succeeds can be carried out again on the tree that it has
left, with the same report and no further change, unless it has written
over what it reads (`Request.execute_again`). Each stage finds what it
found before:

- The same files are generated, since no source is written over and
  directories are made only where nothing was (`spares_puts`).
- The directory of the output is there, so nothing is made
  (`OnTree.makeDirectories_again`).
- The files are accepted where they were, since writing leaves the
  directories alone, and putting them there once more changes nothing
  (`FileTree.setAll_setAll`).

Output may go beside the sources, and the same file may be written more
than once in one run: neither is an exception.
-/
import SchemaPress.Proofs.CommandLine.Success
import SchemaPress.Proofs.Generation.Sources

namespace SchemaPress

variable {t made after : FileTree} {directory : String}

/-- A directory that has been made is not made again as long as the
directories are the same. -/
theorem OnTree.makeDirectories_again
    (hmade : StateT.run (Disk.makeDirectories directory : OnTree _) t
      = (.ok (), made))
    (hsame : made.SameDirectories after) :
    StateT.run (Disk.makeDirectories directory : OnTree _) after
      = (.ok (), after) := by
  refine makeDirectories_run fun hdirectory => ?_
  obtain ⟨a, ha, hentry⟩ := FileTree.isDirectory_iff.1
    (achieves_makeDirectories hdirectory t made hmade)
  exact FileTree.isDirectory_iff.2
    ⟨a, hsame.locate_eq_ok_iff.2 ha, (hsame.directory_iff a).2 hentry⟩

namespace OutputFile

variable {files : List OutputFile} {sources : List String}

/-- Written files spare the sources that they do not lead to. -/
theorem spares_puts
    (hmade : StateT.run (Disk.makeDirectories directory : OnTree _) t
      = (.ok (), made))
    (haccepts : ∀ file ∈ files, made.Accepts (file.path directory))
    (hapart : ∀ file ∈ files, ∀ source ∈ sources, ∀ a,
      made.locate (file.path directory) = .ok a →
      made.locate source ≠ .ok a) :
    t.Spares (made.setAll (puts made directory files)) sources := by
  obtain ⟨new, hwritten⟩ := exists_written_of_makeDirectories t directory
  rw [hmade] at hwritten
  have hsame := sameDirectories_puts haccepts
  have hkept : ∀ a, t.entryAt? a = some .directory →
      made.entryAt? a = some .directory := by
    intro a ha
    have hnew : a ∉ new := by
      intro hmem
      rw [(hwritten.made_new a hmem).1] at ha
      cases ha
    rw [hwritten.unchanged a hnew nofun, ha]
  refine ⟨hsame.here_eq.trans hwritten.here_eq, ?_, ?_⟩
  · exact fun a ha => (hsame.directory_iff a).2 (hkept a ha)
  · intro source hsource a ha
    have hlocate := FileTree.locate_mono hwritten.here_eq hkept ha
    have huntouched : ∀ put ∈ puts made directory files, put.1 ≠ a := by
      intro put hput hput'
      obtain ⟨file, hfile, rfl⟩ := List.mem_map.1 hput
      refine hapart file hfile source hsource a ?_ hlocate
      rw [← hput', (haccepts file hfile).locate_eq]
    rw [FileTree.entryAt?_setAll_of_forall_ne huntouched]
    by_cases hnew : a ∈ new
    · exact .inr (hwritten.made_new a hnew)
    · exact .inl (hwritten.unchanged a hnew nofun)

end OutputFile

namespace Request

/-- What a request generates when all that it leaves open is as
suggested. -/
def suggestedOptions (request : Request) : Options :=
  request.suggested.options request.extension

/-- A request names its document by a path, so the document has a bare
name. -/
theorem slash_notMem_document (request : Request) :
    '/' ∉ request.suggestedOptions.document.name.toList :=
  Location.slash_notMem_name_ofPath request.document

end Request

end SchemaPress
