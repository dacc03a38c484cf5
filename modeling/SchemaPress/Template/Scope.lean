/-
Scopes: what a reference leads to at a place in a template.

A scope is the data that a template is rendered with and the blocks
around the place, innermost first. The block on the outside is the
template itself, and its base is the data.

# Places in the data

A block remembers its base as a way into the data, name by name, wherever
it can. What a reference finds keeps its way too, so that a block over it
has a way again. Only values that no way leads to (literals, results of
helpers) are kept themselves, and nothing found inside them has a way.

# Missing values

A name that an object does not have, an index outside of an array, and
anything inside a text or a number are missing, and so is what a missing
value is asked for. Only a name that is no index is an error for an
array.
-/
import SchemaPress.Template.Basic

namespace SchemaPress.Template

-- ============================================================= errors

/-- Why a template cannot be rendered. -/
inductive RenderError where
  /-- An array was asked for a name that is no index. -/
  | notAnIndex (name : String)
  | helperNotFound (name : String)
  | decoratorNotFound (name : String)
  | templateNotFound (name : String)
  /-- An argument that has to be there is not. -/
  | missingArgument (callee : String) (index : Nat)
  /-- The length of nothing was asked for. -/
  | nothingToMeasure
  /-- A template includes itself. -/
  | selfInclusion (name : String)
  /-- No inclusion around has brought a body. -/
  | noBody
  | unknownLogLevel (level : String)
  /-- A template inside the template has no text for a name, or no
  body. -/
  | illFormedInline
  /-- Inclusions do not come to an end. -/
  | endlessInclusion
  deriving DecidableEq, Repr

/-- What went wrong, in words, where it can be told. -/
def RenderError.message? : RenderError → Option String
  | .notAnIndex name =>
      some s!"Cannot access array/vector with string index, {name}"
  | .helperNotFound name => some s!"Helper not found {name}"
  | .decoratorNotFound name => some s!"Decorator not found {name}"
  | .templateNotFound name => some s!"Partial not found {name}"
  | .missingArgument callee index =>
      some (s!"Helper/Decorator {callee} param at index {index} "
        ++ "required but not found")
  | _ => none

-- ============================================================= values

/-- What an expression yields. -/
structure Found where
  /-- The value; nothing if it is missing. -/
  value? : Option Json
  /-- The way to it in the data, if there is one. -/
  way? : Option (List String)

namespace Found

/-- What is missing. -/
def missing : Found := ⟨none, none⟩

/-- A value that no way leads to. -/
def ofValue (value : Json) : Found := ⟨some value, none⟩

/-- A value that may be missing and has no way to it. -/
def ofValue? (value : Option Json) : Found := ⟨value, none⟩

/-- The value; null if it is missing. -/
def json (found : Found) : Json := found.value?.getD .null

end Found

/-- The limit of array positions. -/
def indexLimit : Nat := Nat.pow 2 64

/-- The position that a name spells in an array with a number of items.
A number beyond the limit is none, unless the array goes that far. -/
def index? (count : Nat) (name : String) : Option Nat :=
  let digits := match name.toList with
    | '+' :: digits => digits
    | digits => digits
  if digits.isEmpty || !digits.all Char.isDigit then none
  else
    let n := digits.foldl (fun n c => n * 10 + (c.toNat - '0'.toNat)) 0
    if n < max indexLimit count then some n else none

/-- What a value has under a name. -/
def member (value : Json) (name : String) :
    Except RenderError (Option Json) :=
  match value with
  | .array items =>
      match index? items.length name with
      | some i => .ok items[i]?
      | none => .error (.notAnIndex name)
  | .object fields => .ok (Fields.get? name fields)
  | _ => .ok none

/-- Follows a way into a value. -/
def follow (value : Json) : List String →
    Except RenderError (Option Json)
  | [] => .ok (some value)
  | name :: names => do
      match ← member value name with
      | some value => follow value names
      | none => return none

-- ============================================================= scopes

/-- What a parameter of a block stands for. -/
inductive Binding where
  /-- The base of the block. -/
  | here
  | value (value : Json)

/-- A block around a place in a template. -/
structure Block where
  /-- The way to its base. -/
  way : List String
  /-- Its base, where that is not what the way leads to. -/
  value? : Option Json
  /-- Its local variables. -/
  locals : Fields Json
  parameters : Fields Binding

namespace Block

/-- A block over a way into the data. -/
def ofWay (way : List String) : Block := ⟨way, none, [], []⟩

/-- A block over what an expression yields. -/
def ofFound (found : Found) : Block :=
  match found.way? with
  | some way => ofWay way
  | none => { ofWay [] with value? := some found.json }

end Block

/-- What a place in a template can refer to. -/
structure Scope where
  /-- What the template is rendered with. -/
  data : Json
  /-- The blocks around the place, innermost first. -/
  blocks : List Block

namespace Scope

/-- The scope of a template. -/
def ofData (data : Json) : Scope := ⟨data, [.ofWay []]⟩

/-- The scope inside one more block. -/
def enter (block : Block) (s : Scope) : Scope :=
  { s with blocks := block :: s.blocks }

/-- What a way into the data leads to. -/
def reach (way : List String) (s : Scope) : Except RenderError Found := do
  match ← follow s.data way with
  | some value => return ⟨some value, some way⟩
  | none => return .missing

/-- What a way into a value leads to. -/
def inside (value : Json) (way : List String) :
    Except RenderError Found := do
  return .ofValue? (← follow value way)

/-- The block a number of steps outward. -/
def block? (ups : Nat) (s : Scope) : Option Block := s.blocks[ups]?

/-- What names lead to from the base of a block. -/
def fromBase (block : Option Block) (names : List String) (s : Scope) :
    Except RenderError Found :=
  match block with
  | some ⟨_, some value, _, _⟩ => inside value names
  | some ⟨way, none, _, _⟩ => s.reach (way ++ names)
  | none => s.reach names

/-- The innermost binding of a name, with the way to the base of its
block. -/
def binding? (name : String) : List Block →
    Option (Binding × List String)
  | [] => none
  | block :: blocks =>
      match Fields.get? name block.parameters with
      | some binding => some (binding, block.way)
      | none => binding? name blocks

/-- The binding that a way starts with, and the names behind it. -/
def bound? (names : List String) (s : Scope) :
    Option ((Binding × List String) × List String) := do
  match names with
  | [] => none
  | name :: rest => return (← binding? name s.blocks, rest)

/-- The value of a local variable. -/
def local? (ups : Nat) (name : String) (s : Scope) : Option Json :=
  (s.block? ups).bind fun block => Fields.get? name block.locals

/-- What a reference leads to. Steps outward beyond the outermost block
lead to the innermost one, and a name bound by a block parameter leads
there whatever the steps. -/
def resolve (target : Reference) (s : Scope) :
    Except RenderError Found :=
  if target.fromRoot then s.reach target.names
  else if target.isLocal then
    match target.names with
    | name :: _ => .ok (.ofValue? (s.local? target.ups name))
    | [] => s.fromBase s.blocks.head? []
  else
    match s.bound? target.names with
    | some ((.here, way), rest) => s.reach (way ++ rest)
    | some ((.value value, _), rest) => inside value rest
    | none =>
        s.fromBase ((s.block? target.ups).or s.blocks.head?) target.names

end Scope

end SchemaPress.Template
