/-
Why the disk refuses: a cause for each way in which reading a file,
writing one or making a directory can fail, and its wording. Causes that
the system numbers are worded with their number.
-/
import SchemaPress.Text.Quoted

namespace SchemaPress

/-- Why the disk refuses. -/
inductive DiskError where
  /-- A file or a directory on the way to it does not exist. -/
  | notFound
  /-- Something is there already. -/
  | alreadyExists
  /-- A file stands where a directory should. -/
  | notADirectory
  /-- A directory stands where a file should. -/
  | isADirectory
  /-- A file holds no text. -/
  | notText
  /-- A name holds a character that no name can. -/
  | badName
  /-- A directory has nothing above it to be made in. -/
  | unrooted
  /-- Any other cause, in words. -/
  | other (text : String)
  deriving DecidableEq, Repr

namespace DiskError

/-- What the system calls a cause: its number, its kind and its
wording. -/
def system? : DiskError → Option (Nat × String × String)
  | .notFound => some (2, "NotFound", "No such file or directory")
  | .alreadyExists => some (17, "AlreadyExists", "File exists")
  | .notADirectory => some (20, "NotADirectory", "Not a directory")
  | .isADirectory => some (21, "IsADirectory", "Is a directory")
  | _ => none

/-- The wording of a cause that the system has no number for, with its
kind. -/
def plain : DiskError → String × String
  | .notText => ("InvalidData", "stream did not contain valid UTF-8")
  | .badName =>
      ("InvalidInput", "file name contained an unexpected NUL byte")
  | .unrooted => ("Uncategorized", "failed to create whole tree")
  | .other text => ("Other", text)
  | _ => ("Other", "")

/-- A cause in words. -/
def message (e : DiskError) : String :=
  match e.system? with
  | some (number, _, text) => s!"{text} (os error {number})"
  | none => e.plain.2

/-- A cause with all that is known about it. -/
def detail (e : DiskError) : String :=
  match e.system? with
  | some (number, kind, text) =>
      s!"Os \x7b code: {number}, kind: {kind}, message: "
        ++ Text.quoted text ++ " \x7d"
  | none =>
      s!"Error \x7b kind: {e.plain.1}, message: "
        ++ Text.quoted e.plain.2 ++ " \x7d"

end DiskError

end SchemaPress
