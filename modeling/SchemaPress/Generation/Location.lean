/-
Locations of documents: a directory and a name without extension. The
name also names the output where all models share a file.

# From paths to locations

What a user gives is a path. Its directory is the parent, and the name is
what stands in front of the first dot of the last component, so a version
in the file name does not end up in the names of the output. A path that
ends in no file name has an empty name.

# Loading

The document is looked for with one extension and then with another; the
first that is a file is the document, whatever it holds. When neither is
there, the path with the first extension is the one that is reported.
-/
import SchemaPress.Disk.Basic
import SchemaPress.Generation.Error
import SchemaPress.Model.Document

namespace SchemaPress

/-- Where a document is. -/
structure Location where
  directory : String
  /-- The name of the document, without extension. -/
  name : String
  deriving DecidableEq, Repr

namespace Location

/-- What stands in front of the first dot. -/
def stem (fileName : String) : String :=
  String.ofList (fileName.toList.takeWhile (· != '.'))

/-- The location that a path leads to. -/
def ofPath (path : String) : Location where
  directory := (Path.parent? path).getD ""
  name := stem ((Path.fileName? path).getD "")

/-- The path of the document. -/
def documentPath (location : Location) : String :=
  Path.join location.directory (location.name ++ ".yml")

/-- Where the document may be instead. -/
def alternativePath (location : Location) : String :=
  Path.join location.directory (location.name ++ ".yaml")

variable {m : Type → Type} [Monad m] [Disk m]

/-- The path of the document that is there. -/
def find? (location : Location) : m (Option String) := do
  if ← Disk.isFile location.documentPath then
    return some location.documentPath
  else if ← Disk.isFile location.alternativePath then
    return some location.alternativePath
  else return none

/-- The models of the document. -/
def load (location : Location) : m (Except GenerationError Models) := do
  match ← location.find? with
  | none => return .error (.documentNotFound location.documentPath)
  | some path =>
      match ← Disk.read path with
      | .error _ => return .error (.documentNotFound path)
      | .ok text =>
          match Models.ofText text with
          | .ok models => return .ok models
          | .error reason =>
              return .error (.malformedDocument reason.message)

end Location

end SchemaPress
