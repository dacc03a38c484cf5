/-
Models: the named things that a document declares. A model has a title,
a description and properties, each property a name with a schema; every
other key is an extension.

# Reading

A model is read from an object. Title and description count as absent
when they are not text, and properties that are no object count as none
at all. A property whose value is no object (a name with nothing behind
it, say) is a property with the empty schema, so no name is ever lost.

Where a document declares a name with nothing behind it, there is a model
that is empty. Any other value in the place of a model is an error, the
only one that reading models can raise.
-/
import SchemaPress.Schema

namespace SchemaPress

/-- A declared model. Its name is the key it is declared under. -/
structure Model where
  title : Option String
  description : Option String
  properties : Fields Schema
  /-- Everything else. -/
  extensions : Fields Json

/-- The models of a document, by name. -/
abbrev Models := Fields Model

namespace Model

/-- The model that declares nothing. -/
def empty : Model := ⟨none, none, [], []⟩

instance : Inhabited Model := ⟨empty⟩

/-- The keys with a meaning. -/
def keywords : List String := ["title", "description", "properties"]

-- ============================================================ reading

/-- Reads properties. -/
def propertiesOf : Option Json → Fields Schema
  | some (.object fields) => Fields.mapValues Schema.ofJson fields
  | _ => []

/-- Reads a model from the fields of an object. -/
def ofFields (fields : Fields Json) : Model where
  title := Schema.textAt "title" fields
  description := Schema.textAt "description" fields
  properties := propertiesOf (Fields.get? "properties" fields)
  extensions := Fields.without keywords fields

/-- Reads a model; nothing for a value that cannot be one. -/
def ofJson? : Json → Option Model
  | .object fields => some (ofFields fields)
  | .null => some empty
  | _ => none

-- ============================================================ writing

/-- The fields that a model is written as: title and description if
present, the properties always, then the extensions. -/
def toFields (m : Model) : Fields Json :=
  Schema.textField "title" m.title
    ++ Schema.textField "description" m.description
    ++ [("properties", .object (Fields.mapValues Schema.toJson m.properties))]
    ++ m.extensions

/-- Writes a model as an object. -/
def toJson (m : Model) : Json := .object m.toFields

end Model

end SchemaPress
