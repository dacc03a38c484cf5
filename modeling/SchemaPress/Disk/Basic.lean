/-
Disks: what generation asks of the place where files are. There are five
requests; whatever answers them is a disk, be it a real one or a tree of
files held in memory (`Disk.Tree`).

# Directories

Making a directory together with those above it starts at the bottom. A
directory that cannot be made because something above it is missing is
made again after what is above it has been made, and one that is there
already counts as made. So on a path that is a directory already, one
request is enough and nothing above it is touched.
-/
import SchemaPress.Disk.Error
import SchemaPress.Path

namespace SchemaPress

/-- A place where files are. -/
class Disk (m : Type → Type) where
  /-- Whether a path leads to a file. -/
  isFile : String → m Bool
  /-- Whether a path leads to a directory. -/
  isDirectory : String → m Bool
  /-- The text of a file. -/
  read : String → m (Except DiskError String)
  /-- Gives a file a text; makes the file if there is none. -/
  write : String → String → m (Except DiskError Unit)
  /-- Makes a directory inside one that exists. -/
  makeDirectory : String → m (Except DiskError Unit)

namespace Disk

variable {m : Type → Type} [Monad m] [Disk m]

/-- A path and those above it, as many as asked for. -/
def pathsUp : Nat → String → List String
  | 0, _ => []
  | count + 1, path =>
      path ::
        match Path.parent? path with
        | some parent => pathsUp count parent
        | none => []

/-- A path and all those above it, nearest first. -/
def ancestors (path : String) : List String :=
  pathsUp (path.length + 1) path

/-- Makes a directory that may be there already. -/
def ensureDirectory (path : String) : m (Except DiskError Unit) := do
  match ← makeDirectory path with
  | .ok () => return .ok ()
  | .error e =>
      if ← isDirectory path then return .ok () else return .error e

/-- Makes the first of some paths a directory, the others being those
above it. -/
def makeFrom : List String → m (Except DiskError Unit)
  | [] => return .error .unrooted
  | path :: above => do
      if path.isEmpty then return .ok ()
      match ← makeDirectory path with
      | .ok () => return .ok ()
      | .error .notFound =>
          match ← makeFrom above with
          | .ok () => ensureDirectory path
          | .error e => return .error e
      | .error e =>
          if ← isDirectory path then return .ok () else return .error e

/-- Makes a directory and all those above it. -/
def makeDirectories (path : String) : m (Except DiskError Unit) :=
  makeFrom (ancestors path)

end Disk

end SchemaPress
