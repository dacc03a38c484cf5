/-
Why a run fails: generation fails, the disk refuses, or a question is
left without an answer. As with the causes of generation there is a
message for people and a detail that names the cause.
-/
import SchemaPress.Generation.Error

namespace SchemaPress

/-- Why a run fails. -/
inductive RunError where
  | disk (cause : DiskError)
  | generation (cause : GenerationError)
  /-- A question was not answered. -/
  | question (reason : String)
  /-- Anything else, in words. -/
  | general (text : String)
  deriving DecidableEq, Repr

namespace RunError

/-- The cause in words. -/
def message : RunError → String
  | .disk cause => s!"IO Error: {cause.message}"
  | .generation cause => cause.message
  | .question reason => s!"Prompt failed: {reason}"
  | .general text => s!"Operation failed: {text}"

/-- The cause with what it is about. -/
def detail : RunError → String
  | .disk cause => s!"Io({cause.detail})"
  | .generation cause => s!"Core({cause.detail})"
  | .question reason => s!"Prompt({reason})"
  | .general text => "General(" ++ Text.quoted text ++ ")"

end RunError

end SchemaPress
