/-
Shapes: what of a schema decides the type of a property. A shape is a
primitive, an array of a shape, another model by its name, or untyped;
descriptions, extensions and everything a schema says beside the point
are gone.

The declared type decides. A schema without a type but with a reference
counts as an object. An object is the model that its reference names; an
object without a name to go by is untyped, and so is any type that is
not known, whatever else the schema says.
-/
import SchemaPress.Schema

namespace SchemaPress

/-- The primitive types of schemas. -/
inductive Primitive where
  | string
  | number
  | integer
  | boolean
  deriving DecidableEq, Repr

/-- What decides the type of a property. -/
inductive Shape where
  | primitive (kind : Primitive)
  | array (element : Shape)
  | model (name : String)
  | untyped
  deriving DecidableEq, Repr

instance : Inhabited Shape := ⟨.untyped⟩

namespace Primitive

/-- All primitive types, in their usual order. -/
def all : List Primitive := [.string, .number, .integer, .boolean]

/-- The name of a primitive type in schemas. -/
def keyword : Primitive → String
  | .string => "string"
  | .number => "number"
  | .integer => "integer"
  | .boolean => "boolean"

/-- The primitive type with a name. -/
def ofKeyword? (name : String) : Option Primitive :=
  all.find? fun kind => kind.keyword = name

end Primitive

namespace Shape

/-- What follows the last slash, or everything if there is none. -/
def lastSegment (text : List Char) : List Char :=
  (text.reverse.takeWhile (· != '/')).reverse

/-- There is no slash behind the last one. -/
theorem slash_notMem_lastSegment (text : List Char) :
    '/' ∉ lastSegment text := by
  rw [lastSegment, List.mem_reverse]
  intro h
  have hall := List.all_takeWhile (p := (· != '/')) (l := text.reverse)
  simpa using List.all_eq_true.1 hall _ h

/-- The name of the model that a reference points to; nothing if it ends
in a slash or is empty. -/
def referenced? (reference : String) : Option String :=
  let name := lastSegment reference.toList
  if name.isEmpty then none else some (String.ofList name)

/-- The shape of an object with or without a reference. -/
def ofReference (reference : Option String) : Shape :=
  match reference.bind referenced? with
  | some name => .model name
  | none => .untyped

/-- The type that decides: the declared one, or the one implied by a
reference. -/
def decidingType? (s : Schema) : Option String :=
  match s.type, s.reference with
  | some type, _ => some type
  | none, some _ => some "object"
  | none, none => none

/-- The shape of a type other than an array. -/
def ofType (type : Option String) (reference : Option String) : Shape :=
  match type with
  | none => .untyped
  | some type =>
      match Primitive.ofKeyword? type with
      | some kind => .primitive kind
      | none =>
          if type = "object" then ofReference reference else .untyped

/-- The shape of a schema. -/
def ofSchema : Schema → Shape
  | s@⟨_, none, _, _, _⟩ =>
      if s.type = some "array" then .array .untyped
      else ofType (decidingType? s) s.reference
  | s@⟨_, some items, _, _, _⟩ =>
      if s.type = some "array" then .array (ofSchema items)
      else ofType (decidingType? s) s.reference

end Shape

end SchemaPress
