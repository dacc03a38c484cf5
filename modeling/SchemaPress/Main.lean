/-
The program. It reads the command line, runs it on the real disk, and
says what it has done. Questions that the command line leaves open are
asked on the terminal, unless it says not to ask.
-/
import SchemaPress.CommandLine.Arguments
import SchemaPress.CommandLine.Run

namespace SchemaPress

namespace Terminal

/-- The cause of a failure of the system. -/
def causeOf : IO.Error → DiskError
  | .noFileOrDirectory _ _ _ => .notFound
  | .alreadyExists _ _ _ => .alreadyExists
  | .inappropriateType _ code _ =>
      if code = 21 then .isADirectory else .notADirectory
  | .invalidArgument _ _ _ => .badName
  | e => .other (toString e)

/-- The outcome of a request to the system. -/
def attempt {α : Type} (request : IO α) : IO (Except DiskError α) := do
  match ← request.toBaseIO with
  | .ok value => return .ok value
  | .error e => return .error (causeOf e)

/-- The text that bytes spell. -/
def textOf (bytes : ByteArray) : Except DiskError String :=
  match String.fromUTF8? bytes with
  | some text => .ok text
  | none => .error .notText

/-- Whether a path leads to anything. Nothing is opened for that. -/
def leads (path : String) : IO Bool := do
  match ← attempt (IO.FS.realPath path) with
  | .ok _ => return true
  | .error _ => return false

/-- Whether a path leads to a directory. Behind anything else no path goes
on. -/
def leadsOn (path : String) : IO Bool :=
  if path.isEmpty then return false else leads (path ++ "/.")

instance : Disk IO where
  -- what is there and is no directory is taken for a file
  isFile path := do
    if ← leadsOn path then return false else leads path
  isDirectory path := leadsOn path
  read path := do
    match ← attempt (IO.FS.readBinFile path) with
    | .ok bytes => return textOf bytes
    | .error cause => return .error cause
  write path text := attempt (IO.FS.writeFile path text)
  makeDirectory path := attempt (IO.FS.createDir path)

/-- Reads a line from the terminal, without its end. -/
def readLine : IO (Option String) := do
  let line ← (← IO.getStdin).getLine
  if line.isEmpty then return none
  else
    let isEnd (c : Char) : Bool := c == '\n' || c == '\r'
    return some (String.ofList (Text.dropEndWhile isEnd line.toList))

/-- Asks on the terminal. An empty answer is the suggested one. -/
def ask : Answering IO := fun question => do
  match question with
  | .select message answers suggestion =>
      let listed := String.intercalate ", " answers
      IO.eprint s!"{message} ({listed}) [{suggestion}] "
  | .text message suggestion => IO.eprint s!"{message} [{suggestion}] "
  match ← readLine with
  | none => return .error (.question "InputEnded")
  | some "" => return .ok question.suggestion
  | some answer =>
      match question with
      | .select _ answers _ =>
          if answers.contains answer then return .ok answer
          else return .error (.question "UnknownAnswer")
      | .text _ _ => return .ok answer

end Terminal

/-- The variables of the environment that stand in for options. -/
def readEnvironment : IO (List (String × String)) := do
  let names := CommandLine.Slot.options.filterMap (·.environmentName?)
  names.filterMapM fun name => do
    return (← IO.getEnv name).map (name, ·)

/-- Runs a command line; yields the exit code. -/
def runCommand (arguments : List String) : IO UInt32 := do
  let environment ← readEnvironment
  match CommandLine.read? (fun name => Fields.get? name environment)
      arguments with
  | none =>
      IO.eprintln ("usage: gen YML [-l LANGUAGE] [-t TEMPLATE] "
        ++ "[-o OUTPUT] [--extension EXTENSION] [-y] [-v]")
      return 2
  | some invocation =>
      let ask : Answering IO :=
        if invocation.quiet then Answering.suggested else Terminal.ask
      match ← invocation.request.execute ask with
      | .ok report =>
          IO.println report.message
          return 0
      | .error e =>
          IO.eprintln s!"Error: {e.detail}"
          return 1

end SchemaPress

/-- Runs the program. -/
def main (arguments : List String) : IO UInt32 :=
  SchemaPress.runCommand arguments
