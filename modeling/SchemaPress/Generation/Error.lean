/-
Why nothing is generated: a cause for each step from the document to the
rendered files, with two wordings. The message is for people; the detail
names the cause and quotes what it is about.
-/
import SchemaPress.Disk.Error
import SchemaPress.Template.Nesting
import SchemaPress.Template.Scope

namespace SchemaPress

/-- Why nothing is generated. -/
inductive GenerationError where
  | disk (cause : DiskError)
  | documentNotFound (path : String)
  | malformedDocument (reason : String)
  | unsupportedLanguage (name : String)
  /-- A template is none. -/
  | compilation (fault : Template.Fault)
  /-- A template cannot be rendered. -/
  | rendering (cause : Template.RenderError)
  /-- Anything else, in words. -/
  | general (text : String)
  deriving DecidableEq, Repr

namespace GenerationError

/-- The file of a template cannot be read. -/
def unreadableTemplate (path : String) (cause : DiskError) :
    GenerationError :=
  .general s!"Failed to read template {Text.quoted path}: {cause.message}"

/-- The cause in words. A template's fault that has no words of its own
goes by general ones. -/
def message : GenerationError → String
  | .disk cause => s!"IO Error: {cause.message}"
  | .documentNotFound path => s!"Document not found: {path}"
  | .malformedDocument reason => s!"Malformed document: {reason}"
  | .unsupportedLanguage name => s!"Unsupported language: {name}."
  | .compilation fault =>
      "Template compile error: " ++ (fault.message?.getD "invalid template")
  | .rendering cause =>
      "Template render error: " ++ (cause.message?.getD "cannot render")
  | .general text => s!"General Error: {text}"

/-- The cause with what it is about. -/
def detail : GenerationError → String
  | .disk cause => s!"Io({cause.detail})"
  | .documentNotFound path =>
      "DocumentNotFound \x7b path: " ++ Text.quoted path ++ " \x7d"
  | .malformedDocument reason =>
      "MalformedDocument(" ++ Text.quoted reason ++ ")"
  | .unsupportedLanguage name =>
      "UnsupportedLanguage(" ++ Text.quoted name ++ ")"
  | .compilation fault =>
      "TemplateCompile(" ++ (fault.message?.getD "invalid template") ++ ")"
  | .rendering cause =>
      "TemplateRender(" ++ (cause.message?.getD "cannot render") ++ ")"
  | .general text => "General(" ++ Text.quoted text ++ ")"

end GenerationError

end SchemaPress
