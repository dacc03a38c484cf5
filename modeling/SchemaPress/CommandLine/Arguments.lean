/-
The command line. There is one command, `gen`, with the path of a
document and options; an option that is left out may be given by a
variable of the environment.

# Options

An option has a long name behind two dashes, and some have a letter
behind one. Letters can be written together, up to one that takes a
value. A value is the next argument, or it is attached: to a long name
behind an equals sign, to a letter directly or behind an equals sign. An
argument that looks like an option is no value. Two dashes alone end the
options.

Every option with a value can be given once, and so can the one that
says not to ask; only the one for more messages can be repeated.
-/
import SchemaPress.CommandLine.Settings

namespace SchemaPress

namespace CommandLine

/-- What can be given a value. -/
inductive Slot where
  | document
  | language
  | template
  | output
  | extension
  deriving DecidableEq, Repr

namespace Slot

/-- The options with a value. -/
def options : List Slot := [.language, .template, .output, .extension]

/-- The long name of an option. -/
def longName : Slot → String
  | .document => "yml"
  | .language => "language"
  | .template => "template"
  | .output => "output"
  | .extension => "extension"

/-- The letter of an option. -/
def letter? : Slot → Option Char
  | .language => some 'l'
  | .template => some 't'
  | .output => some 'o'
  | _ => none

/-- The variable of the environment that stands in for an option. -/
def environmentName? : Slot → Option String
  | .language => some "MODELGEN_LANGUAGE"
  | .template => some "MODELGEN_TEMPLATE"
  | .output => some "MODELGEN_OUTPUT"
  | _ => none

/-- The option with a long name. -/
def ofLongName? (name : String) : Option Slot :=
  options.find? fun slot => slot.longName = name

/-- The option with a letter. -/
def ofLetter? (letter : Char) : Option Slot :=
  options.find? fun slot => slot.letter? = some letter

/-- Whether a value is a path, which cannot be empty. -/
def isPath : Slot → Bool
  | .document | .output => true
  | _ => false

end Slot

/-- What has been read of a command line. -/
structure Draft where
  values : List (Slot × String)
  /-- Whether nothing is to be asked. -/
  quiet : Bool
  /-- How many more messages are wanted. -/
  verbosity : Nat
  deriving DecidableEq, Repr

/-- What a command line says. -/
structure Invocation where
  request : Request
  /-- Whether nothing is to be asked. -/
  quiet : Bool
  /-- How many more messages are wanted. -/
  verbosity : Nat
  deriving DecidableEq, Repr

namespace Draft

/-- The start of a command line. -/
def start : Draft := ⟨[], false, 0⟩

/-- The value in a slot. -/
def value? (slot : Slot) (d : Draft) : Option String :=
  (d.values.find? fun entry => entry.1 = slot).map Prod.snd

/-- Gives a slot its value; nothing if it has one, or if the value cannot
be. -/
def give? (slot : Slot) (value : String) (d : Draft) : Option Draft :=
  if (d.value? slot).isSome || (slot.isPath && value.isEmpty) then none
  else some { d with values := (slot, value) :: d.values }

/-- Asks for no questions. -/
def hush? (d : Draft) : Option Draft :=
  if d.quiet then none else some { d with quiet := true }

/-- Asks for more messages. -/
def louder (d : Draft) : Draft := { d with verbosity := d.verbosity + 1 }

-- ============================================================ reading

/-- Whether an argument looks like an option. -/
def looksLikeOption (argument : String) : Bool :=
  match argument.toList with
  | '-' :: _ :: _ => true
  | _ => false

/-- Reads letters behind a dash. A letter whose value is not attached
waits for the next argument. -/
def readLetters? : List Char → Draft → Option (Draft × Option Slot)
  | [], d => some (d, none)
  | 'v' :: rest, d => readLetters? rest d.louder
  | 'y' :: rest, d => do readLetters? rest (← d.hush?)
  | letter :: rest, d => do
      let slot ← Slot.ofLetter? letter
      match rest with
      | [] => return (d, some slot)
      | '=' :: value => return (← d.give? slot (String.ofList value), none)
      | value => return (← d.give? slot (String.ofList value), none)

/-- Reads a long name with any value attached to it. -/
def readLong? (text : List Char) (d : Draft) :
    Option (Draft × Option Slot) := do
  let name := String.ofList (text.takeWhile (· != '='))
  match text.dropWhile (· != '=') with
  | [] =>
      if name = "verbose" then return (d.louder, none)
      else if name = "yes" then return (← d.hush?, none)
      else return (d, some (← Slot.ofLongName? name))
  | _ :: value =>
      return (← d.give? (← Slot.ofLongName? name) (String.ofList value),
        none)

/-- Reads an argument. -/
def readArgument? (argument : String) (d : Draft) :
    Option (Draft × Option Slot) :=
  match argument.toList with
  | '-' :: '-' :: name => readLong? name d
  | '-' :: letter :: rest => readLetters? (letter :: rest) d
  | _ => (d.give? .document argument).map (·, none)

/-- Reads arguments behind the end of the options. -/
def readPlain? : List String → Draft → Option Draft
  | [], d => some d
  | argument :: rest, d => do
      readPlain? rest (← d.give? .document argument)

/-- Reads the arguments of the command. An option may wait for its
value. -/
def readArguments? : Option Slot → List String → Draft → Option Draft
  | none, [], d => some d
  | some _, [], _ => none
  | some slot, argument :: rest, d =>
      if looksLikeOption argument then none
      else do readArguments? none rest (← d.give? slot argument)
  | none, argument :: rest, d =>
      if argument = "--" then readPlain? rest d
      else do
        let (d, waiting) ← readArgument? argument d
        readArguments? waiting rest d

/-- Reads a command line up to the command, and then its arguments. -/
def readCommand? : List String → Draft → Option Draft
  | [], _ => none
  | argument :: rest, d =>
      if argument = "gen" then readArguments? none rest d
      else if argument = "--verbose" then readCommand? rest d.louder
      else
        match argument.toList with
        | '-' :: letter :: letters =>
            if (letter :: letters).all (· == 'v') then
              readCommand? rest
                { d with verbosity := d.verbosity + letters.length + 1 }
            else none
        | _ => none

/-- Gives a slot the value of its variable if it has none. -/
def fromEnvironment? (environment : String → Option String)
    (slot : Slot) (d : Draft) : Option Draft :=
  match d.value? slot, slot.environmentName?.bind environment with
  | none, some value => d.give? slot value
  | _, _ => some d

end Draft

/-- Reads a command line; nothing if it says nothing that makes sense. -/
def read? (environment : String → Option String)
    (arguments : List String) : Option Invocation := do
  let d ← Draft.readCommand? arguments .start
  let d ← Slot.options.foldlM
    (fun d slot => Draft.fromEnvironment? environment slot d) d
  let document ← d.value? .document
  let request : Request :=
    { document
      language := d.value? .language
      template := d.value? .template
      output := d.value? .output
      extension := d.value? .extension }
  return ⟨request, d.quiet, d.verbosity⟩

end CommandLine

end SchemaPress
