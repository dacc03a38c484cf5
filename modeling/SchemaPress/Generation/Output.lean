/-
Output: the files that templates and models amount to.

Templates are taken in order. Each is read when its turn comes and can
include those before it, which go by their positions. With a file for
each model, a template is rendered once for each model, over the model's
own fields; with one file for all, it is rendered once, over the list of
them. The first failure ends it all.

# Data

The data of a model are the fields it is written as, and its name under
two keys. The name wins where the model has such keys itself.
-/
import SchemaPress.Generation.Origin
import SchemaPress.Generation.Grouping
import SchemaPress.Model.Basic
import SchemaPress.Template.Rendering

namespace SchemaPress

/-- A file to be written. -/
structure OutputFile where
  name : String
  content : String
  deriving DecidableEq, Repr

namespace Model

/-- The fields that a template sees of a model with a name. -/
def dataFields (name : String) (m : Model) : Fields Json :=
  Fields.insert "modelName" (.string name)
    (Fields.insert "key" (.string name) m.toFields)

/-- What a template sees of a model with a name. -/
def data (name : String) (m : Model) : Json := .object (m.dataFields name)

end Model

namespace Models

/-- What a template sees of all models. -/
def data (models : Models) : Json :=
  .object [("models",
    .array (models.map fun entry => entry.2.data entry.1))]

/-- What a template is rendered over, with the name of each file. -/
def subjects (grouping : Grouping) (document : String)
    (models : Models) : List (String × Json) :=
  match grouping with
  | .perModel => models.map fun entry => (entry.1, entry.2.data entry.1)
  | .aggregated => [(document, models.data)]

end Models

namespace OutputFile

/-- The name that the template at a position goes by. -/
def templateName (position : Nat) : String := s!"template_{position}"

/-- The file from a template and one subject. -/
def ofSubject (name : String) (templates : Fields Template)
    (template : Template) (fileName : NamePattern)
    (subject : String × Json) : Except GenerationError OutputFile :=
  match Template.render name templates template subject.2 with
  | .ok content => .ok ⟨fileName.nameFor subject.1, content⟩
  | .error cause => .error (.rendering cause)

/-- The files from some templates and subjects. `templates` are those
before, and `position` is how many they are. -/
def ofTemplates (subjects : List (String × Json)) :
    (position : Nat) → (templates : Fields Template) →
    List NamedTemplate → Except GenerationError (List OutputFile)
  | _, _, [] => .ok []
  | position, templates, entry :: rest => do
      let name := templateName position
      let template ← (Template.ofSource entry.source).mapError
        GenerationError.compilation
      let templates := Fields.insert name template templates
      let files ← subjects.mapM
        (ofSubject name templates template entry.fileName)
      return files
        ++ (← ofTemplates subjects (position + 1) templates rest)

/-- The files from templates and models. The document names a file that
the models share. -/
def ofModels (entries : List NamedTemplate) (models : Models)
    (document : String) (grouping : Grouping) :
    Except GenerationError (List OutputFile) :=
  ofTemplates (models.subjects grouping document) 0 [] entries

end OutputFile

end SchemaPress
