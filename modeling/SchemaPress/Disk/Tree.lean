/-
A tree of files in memory: a disk whose state is a value.

An entry of the tree is a file or a directory, and its address is the
list of names from the root down to it. Every entry stands in a directory
(`IsTree`), the root itself being one without an entry of its own.

# From paths to addresses

A path leads to an address name by name. Before each step the place
reached so far must be a directory, also when the step is a dot or leads
upward; so a path through a file or through nothing leads nowhere, even
if its steps would come back out again. The address at the end need not
have an entry: what to make of that is up to the request. A slash at the
end of a path asks for a directory.
-/
import SchemaPress.Disk.Basic

namespace SchemaPress

/-- The names from the root of a tree down to an entry. -/
abbrev Address := List String

/-- What a file holds. -/
inductive Content where
  | text (text : String)
  /-- Bytes that are no text. -/
  | bytes (bytes : List UInt8)
  deriving DecidableEq

/-- What stands at an address. -/
inductive Entry where
  | file (content : Content)
  | directory
  deriving DecidableEq

/-- Files and directories by their addresses. -/
structure FileTree where
  /-- Where paths start that are not absolute. -/
  here : Address
  entries : List (Address × Entry)

namespace FileTree

-- ============================================================ entries

/-- The entry at an address in a list of entries. -/
def find? (a : Address) : List (Address × Entry) → Option Entry
  | [] => none
  | (b, entry) :: rest => if b = a then some entry else find? a rest

/-- What stands at an address. -/
def entryAt? (t : FileTree) (a : Address) : Option Entry :=
  if a = [] then some .directory else find? a t.entries

/-- Puts an entry at an address in a list of entries, in the place of
any that is there. -/
def place (a : Address) (entry : Entry) :
    List (Address × Entry) → List (Address × Entry)
  | [] => [(a, entry)]
  | (b, old) :: rest =>
      if b = a then (a, entry) :: rest else (b, old) :: place a entry rest

/-- Puts an entry at an address. -/
def set (a : Address) (entry : Entry) (t : FileTree) : FileTree :=
  { t with entries := place a entry t.entries }

/-- Every entry stands in a directory. -/
def IsTree (t : FileTree) : Prop :=
  ∀ a name, (t.entryAt? (a ++ [name])).isSome →
    t.entryAt? a = some .directory

/-- A placed entry is found. -/
theorem find?_place_self (a : Address) (entry : Entry)
    (entries : List (Address × Entry)) :
    find? a (place a entry entries) = some entry := by
  induction entries with
  | nil => simp [place, find?]
  | cons first rest ih =>
      rw [place]
      split
      · simp [find?]
      · next h => rw [find?, if_neg h, ih]

/-- Placing an entry leaves every other address alone. -/
theorem find?_place_of_ne {a b : Address} (hne : a ≠ b) (entry : Entry)
    (entries : List (Address × Entry)) :
    find? b (place a entry entries) = find? b entries := by
  induction entries with
  | nil => simp [place, find?, hne]
  | cons first rest ih =>
      rw [place]
      split
      · next h => rw [find?, find?, h, if_neg hne, if_neg hne]
      · next h => rw [find?, find?, ih]

/-- An entry that has been put at an address stands there. -/
theorem entryAt?_set_self {a : Address} (ha : a ≠ []) (entry : Entry)
    (t : FileTree) : (t.set a entry).entryAt? a = some entry := by
  rw [entryAt?, if_neg ha]
  exact find?_place_self a entry t.entries

/-- Putting an entry at an address changes nothing elsewhere. -/
theorem entryAt?_set_of_ne {a b : Address} (hne : a ≠ b) (entry : Entry)
    (t : FileTree) : (t.set a entry).entryAt? b = t.entryAt? b := by
  rw [entryAt?, entryAt?]
  split
  · rfl
  · exact find?_place_of_ne hne entry t.entries

-- ============================================================== paths

/-- The names on a path. -/
def steps (path : String) : List String :=
  ((Path.segments path.toList).filter fun name => !name.isEmpty).map
    String.ofList

/-- Whether a path asks for a directory. -/
def asksForDirectory (path : String) : Bool :=
  path.toList.getLast? == some '/'

/-- Goes one step from a place that must be a directory. -/
def step (t : FileTree) (a : Address) (name : String) :
    Except DiskError Address :=
  match t.entryAt? a with
  | none => .error .notFound
  | some (.file _) => .error .notADirectory
  | some .directory =>
      if name = "." then .ok a
      else if name = ".." then .ok a.dropLast
      else .ok (a ++ [name])

/-- Goes a number of steps. -/
def walk (t : FileTree) : Address → List String →
    Except DiskError Address
  | a, [] => .ok a
  | a, name :: names => do walk t (← step t a name) names

/-- The address that a path leads to. -/
def locate (t : FileTree) (path : String) : Except DiskError Address :=
  if path.toList.contains '\x00' then .error .badName
  else if path.isEmpty then .error .notFound
  else
    walk t (if Path.isAbsolute path.toList then [] else t.here)
      (steps path)

/-- What a path leads to, with its address. -/
def visit (t : FileTree) (path : String) :
    Except DiskError (Address × Entry) := do
  let a ← t.locate path
  match t.entryAt? a with
  | none => .error .notFound
  | some (.file content) =>
      if asksForDirectory path then .error .notADirectory
      else .ok (a, .file content)
  | some .directory => .ok (a, .directory)

-- =========================================================== requests

/-- Whether a path leads to a file. -/
def isFile (t : FileTree) (path : String) : Bool :=
  match t.visit path with
  | .ok (_, .file _) => true
  | _ => false

/-- Whether a path leads to a directory. -/
def isDirectory (t : FileTree) (path : String) : Bool :=
  match t.visit path with
  | .ok (_, .directory) => true
  | _ => false

/-- The text of the file that a path leads to. -/
def read (t : FileTree) (path : String) : Except DiskError String := do
  match ← t.visit path with
  | (_, .file (.text text)) => .ok text
  | (_, .file (.bytes _)) => .error .notText
  | (_, .directory) => .error .isADirectory

/-- The tree in which the file that a path leads to holds something
else. -/
def writeContent (t : FileTree) (path : String) (content : Content) :
    Except DiskError FileTree := do
  let a ← t.locate path
  if asksForDirectory path then .error .isADirectory
  else
    match t.entryAt? a with
    | some .directory => .error .isADirectory
    | _ => .ok (t.set a (.file content))

/-- The tree with one more directory. -/
def makeDirectory (t : FileTree) (path : String) :
    Except DiskError FileTree := do
  let a ← t.locate path
  match t.entryAt? a with
  | some _ => .error .alreadyExists
  | none => .ok (t.set a .directory)

end FileTree

-- ============================================================ as a disk

/-- Steps that work on a tree of files. -/
abbrev OnTree := StateM FileTree

namespace OnTree

/-- Changes the tree, or leaves it alone if that is refused. -/
def change (f : FileTree → Except DiskError FileTree) :
    OnTree (Except DiskError Unit) := fun t =>
  match f t with
  | .ok t' => (.ok (), t')
  | .error e => (.error e, t)

instance : Disk OnTree where
  isFile path := fun t => (t.isFile path, t)
  isDirectory path := fun t => (t.isDirectory path, t)
  read path := fun t => (t.read path, t)
  write path text := change fun t => t.writeContent path (.text text)
  makeDirectory path := change fun t => t.makeDirectory path

end OnTree

end SchemaPress
