/-
A run: settings are completed, files are generated, and only then is
anything written. So a run that fails before its first write leaves the
disk as it was. Writing makes the output directory first and then one
file after the other; what was written before a failure stays.
-/
import SchemaPress.CommandLine.Settings
import SchemaPress.Generation.Options

namespace SchemaPress

variable {m : Type → Type} [Monad m] [Disk m]

namespace OutputFile

/-- Where a file goes. -/
def path (directory : String) (file : OutputFile) : String :=
  Path.join directory file.name

/-- Writes files into a directory that is there. Yields their paths. -/
def writeInto (directory : String) :
    List OutputFile → m (Except RunError (List String))
  | [] => return .ok []
  | file :: rest => do
      match ← Disk.write (file.path directory) file.content with
      | .error e => return .error (.disk e)
      | .ok () =>
          match ← writeInto directory rest with
          | .error e => return .error e
          | .ok paths => return .ok (file.path directory :: paths)

/-- Writes files into a directory, which is made if it is not there.
Yields their paths. -/
def writeAll (directory : String) (files : List OutputFile) :
    m (Except RunError (List String)) := do
  match ← Disk.makeDirectories directory with
  | .error e => return .error (.disk e)
  | .ok () => writeInto directory files

end OutputFile

/-- What a run has done. -/
structure Report where
  /-- The directory of the output. -/
  output : String
  /-- The paths of the files, in order. -/
  written : List String
  deriving DecidableEq, Repr

namespace Report

/-- The report in words. -/
def message (report : Report) : String :=
  s!"Generated {report.written.length} file(s) in "
    ++ Text.quoted report.output

end Report

namespace Settings

/-- What settings generate, with the extension that was asked for. -/
def options (settings : Settings) (extension : Option String) : Options :=
  let template := TemplateOrigin.ofText (some settings.template)
  .ofLanguage (.ofPath settings.document) settings.language
    (template.withExtension extension)

end Settings

namespace Request

/-- Carries out a request. -/
def execute (ask : Answering m) (request : Request) :
    m (Except RunError Report) := do
  match ← Settings.complete ask request with
  | .error e => return .error e
  | .ok settings =>
      match ← (settings.options request.extension).generate with
      | .error e => return .error (.generation e)
      | .ok files =>
          match ← OutputFile.writeAll settings.output files with
          | .error e => return .error e
          | .ok written => return .ok ⟨settings.output, written⟩

end Request

end SchemaPress
