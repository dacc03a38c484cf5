/-
Schemas: what a document says about one property. Four keys have a
meaning, `type`, `items`, `$ref` and `description`; every other key is
kept as an extension, so that a template can reach what this library does
not understand.

# Reading

Only objects are schemas. Reading one never fails: a recognised key whose
value has the wrong shape counts as absent, and it does not turn into an
extension either. The items of a schema are read in the same way, to any
depth.

# Writing

A schema is written as an object: the recognised keys in a fixed order,
each only if it is present, then the extensions in their order.
-/
import SchemaPress.Json.Basic

namespace SchemaPress

/-- What a document says about one property. -/
structure Schema where
  /-- The declared type. -/
  type : Option String
  /-- What an array holds. -/
  items : Option Schema
  /-- The reference to another model. -/
  reference : Option String
  description : Option String
  /-- Everything else. -/
  extensions : Fields Json

namespace Schema

/-- The schema that says nothing. -/
def empty : Schema := ⟨none, none, none, none, []⟩

instance : Inhabited Schema := ⟨empty⟩

/-- The keys with a meaning. -/
def keywords : List String := ["type", "items", "$ref", "description"]

/-- A schema with a type alone. -/
def ofType (type : String) : Schema := { empty with type := some type }

/-- A schema with a reference alone. -/
def ofReference (target : String) : Schema :=
  { empty with reference := some target }

/-- An array of what a schema describes. -/
def arrayOf (items : Schema) : Schema :=
  { empty with type := some "array", items := some items }

-- ============================================================ reading

/-- The text under a key, if that is what is there. -/
def textAt (key : String) (fields : Fields Json) : Option String :=
  (Fields.get? key fields).bind Json.string?

mutual

/-- Reads a schema; nothing for a value that is no object. -/
def ofJson? : Json → Option Schema
  | .object fields =>
      some
        { type := textAt "type" fields
          items := itemsOf? fields
          reference := textAt "$ref" fields
          description := textAt "description" fields
          extensions := Fields.without keywords fields }
  | _ => none

/-- Reads the items of a schema from its fields. -/
def itemsOf? : List (String × Json) → Option Schema
  | [] => none
  | (name, value) :: rest =>
      if name = "items" then ofJson? value else itemsOf? rest

end

/-- Reads a schema; the empty one for a value that is no object. -/
def ofJson (value : Json) : Schema := (ofJson? value).getD empty

-- ============================================================ writing

/-- A text field, if there is a text. -/
def textField (key : String) (text : Option String) : Fields Json :=
  (text.map fun s => (key, Json.string s)).toList

/-- The fields of a schema, its items written already. -/
def fieldsWith (items : Option Json) (s : Schema) : Fields Json :=
  textField "type" s.type
    ++ (items.map fun value => ("items", value)).toList
    ++ textField "$ref" s.reference
    ++ textField "description" s.description
    ++ s.extensions

/-- Writes a schema as an object. -/
def toJson : Schema → Json
  | s@⟨_, none, _, _, _⟩ => .object (s.fieldsWith none)
  | s@⟨_, some items, _, _, _⟩ => .object (s.fieldsWith items.toJson)

end Schema

end SchemaPress
