/-
Settings of a run. A user may leave out all but the document; what is
left out is asked for, one question after the other, and the first
question without an answer ends the run. What is given is never asked
for.

A question knows its default, so that answering with defaults is one way
to answer among others.
-/
import SchemaPress.CommandLine.Error

namespace SchemaPress

/-- What a user asks for. -/
structure Request where
  /-- The path of the document. -/
  document : String
  language : Option String
  /-- The file of a template, or the word for the built-in one. -/
  template : Option String
  /-- The directory of the output. -/
  output : Option String
  /-- The extension of output from a template file. -/
  extension : Option String
  deriving DecidableEq, Repr

/-- What a run needs to know. -/
structure Settings where
  document : String
  language : String
  template : String
  output : String
  deriving DecidableEq, Repr

/-- A question to the user. -/
inductive Question where
  /-- One out of some answers. -/
  | select (message : String) (answers : List String)
      (suggestion : String)
  /-- Any text. -/
  | text (message : String) (suggestion : String)
  deriving DecidableEq, Repr

namespace Question

/-- What the target language is. -/
def language : Question :=
  .select "Which language should be generated?" ["TypeScript", "Java"]
    "TypeScript"

/-- Where the template is. -/
def template : Question := .text "Template file path:" "default"

/-- Where the output goes. -/
def output : Question := .text "Output directory:" "./output"

/-- The answer that counts if the user has no other. -/
def suggestion : Question → String
  | .select _ _ answer => answer
  | .text _ answer => answer

end Question

/-- A way to answer questions. -/
abbrev Answering (m : Type → Type) := Question → m (Except RunError String)

variable {m : Type → Type} [Monad m]

/-- Answers with what is suggested. -/
def Answering.suggested : Answering m := fun question =>
  return .ok question.suggestion

namespace Settings

/-- What is given, or else the answer to a question. -/
def settle (ask : Answering m) (question : Question) :
    Option String → m (Except RunError String)
  | some given => return .ok given
  | none => ask question

/-- Completes a request, asking for what it leaves open. -/
def complete (ask : Answering m) (request : Request) :
    m (Except RunError Settings) := do
  match ← settle ask .language request.language with
  | .error e => return .error e
  | .ok language =>
      match ← settle ask .template request.template with
      | .error e => return .error e
      | .ok template =>
          match ← settle ask .output request.output with
          | .error e => return .error e
          | .ok output =>
              return .ok ⟨request.document, language, template, output⟩

end Settings

end SchemaPress
