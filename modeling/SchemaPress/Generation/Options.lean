/-
Generation from start to end: the models of a document, the templates
they go into, and the files they amount to. A step that fails ends it,
and nothing is written here in any case.
-/
import SchemaPress.Generation.Location
import SchemaPress.Generation.Output

namespace SchemaPress

/-- What is to be generated from what. -/
structure Options where
  document : Location
  /-- The target language by its name. -/
  language : String
  template : TemplateOrigin
  grouping : Grouping
  deriving DecidableEq, Repr

namespace Options

/-- Options with the grouping that suits the language. -/
def ofLanguage (document : Location) (language : String)
    (template : TemplateOrigin) : Options where
  document
  language
  template
  grouping := .ofLanguage language

variable {m : Type → Type} [Monad m] [Disk m]

/-- The files that options amount to. -/
def generate (options : Options) :
    m (Except GenerationError (List OutputFile)) := do
  match ← options.document.load with
  | .error e => return .error e
  | .ok models =>
      match ← options.template.select options.language with
      | .error e => return .error e
      | .ok entries =>
          return OutputFile.ofModels entries models options.document.name
            options.grouping

end Options

end SchemaPress
