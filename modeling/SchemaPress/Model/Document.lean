/-
The models of a document. They are declared under `schemas` inside of
`components`, and nothing else in the document matters.

Reading goes one step at a time, and each step has its own reason to
fail: the text is no YAML, there is no `components` at the root, there is
no mapping of `schemas` in it, or one of the models is no model. Tags on
the way are looked through. The keys of `schemas` may be any scalar;
they are made text before models are read.

What can be a model is decided on the tree and not on the JSON made from
it. A double without digits is a number and no model, although JSON has
nothing but `null` to say for it.
-/
import SchemaPress.Model.Basic
import SchemaPress.Yaml.Document
import SchemaPress.Yaml.Json

namespace SchemaPress

/-- Why a document has no models to read. -/
inductive Malformation where
  | invalidYaml
  | missingComponents
  | missingSchemas
  | invalidModel
  deriving DecidableEq, Repr

/-- The reason in words. They name the step that failed. What exactly is
wrong with a text that is no YAML or with a model that is none, and where,
they do not say. -/
def Malformation.message : Malformation → String
  | .invalidYaml => "invalid YAML"
  | .missingComponents => "missing \x60components\x60"
  | .missingSchemas => "missing \x60components.schemas\x60 mapping"
  | .invalidModel => "invalid model definition"

namespace Model

/-- Reads a model from a tree with text keys and without tags; nothing
for a tree that is neither a mapping nor nothing at all. -/
def ofNode? (node : Yaml.Node) : Option Model :=
  match node with
  | .mapping _ | .null => ofJson? node.toJson
  | _ => none

/-- Reads the models of a document from the entries that declare them;
nothing if one of them cannot be a model. -/
def allOfEntries? : List (Yaml.Node × Yaml.Node) → Option Models
  | [] => some []
  | (.string name, node) :: rest => do
      let model ← ofNode? node
      let models ← allOfEntries? rest
      return (name, model) :: models
  | _ :: rest => allOfEntries? rest

end Model

namespace Models

/-- The declarations in a tree. -/
def declarations (document : Yaml.Node) :
    Except Malformation Yaml.Node := do
  let components ← match document.get? "components" with
    | some components => .ok components
    | none => .error .missingComponents
  match components.get? "schemas" with
  | some schemas =>
      if schemas.entries?.isSome then .ok schemas
      else .error .missingSchemas
  | none => .error .missingSchemas

/-- The models in declarations. -/
def ofDeclarations (schemas : Yaml.Node) : Except Malformation Models :=
  match schemas.withTextKeys with
  | .mapping entries =>
      match Model.allOfEntries? entries with
      | some models => .ok models
      | none => .error .invalidModel
  | _ => .error .missingSchemas

/-- The models of a document as a tree. -/
def ofDocument (document : Yaml.Node) : Except Malformation Models := do
  ofDeclarations (← declarations document)

/-- The models of a document as text. -/
def ofText (text : String) : Except Malformation Models :=
  match Yaml.Node.ofText? text with
  | some document => ofDocument document
  | none => .error .invalidYaml

end Models

end SchemaPress
