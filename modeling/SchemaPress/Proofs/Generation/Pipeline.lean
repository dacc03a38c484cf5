/-
Generation on a tree of files.

Up to the last step generation only looks at the disk. On a tree of files
that makes it a function of the tree: the models that are loaded from it
(`Location.loadFrom`), the templates that are selected in it
(`TemplateOrigin.selectFrom`), and the files that options amount to
(`Options.generateFrom`). Running the steps gives these and leaves the
tree as it is (`load_run`, `select_run`, `generate_run`).
-/
import SchemaPress.Generation.Options
import SchemaPress.Proofs.Disk.Steps
import SchemaPress.Proofs.Model.RoundTrip

namespace SchemaPress

namespace Location

/-- The path of the document that is in a tree. -/
def findIn (t : FileTree) (location : Location) : Option String :=
  if t.isFile location.documentPath then some location.documentPath
  else if t.isFile location.alternativePath then
    some location.alternativePath
  else none

/-- The models of the document in a tree. -/
def loadFrom (t : FileTree) (location : Location) :
    Except GenerationError Models :=
  match location.findIn t with
  | none => .error (.documentNotFound location.documentPath)
  | some path =>
      match t.read path with
      | .error _ => .error (.documentNotFound path)
      | .ok text =>
          match Models.ofText text with
          | .ok models => .ok models
          | .error reason => .error (.malformedDocument reason.message)

theorem find?_run (t : FileTree) (location : Location) :
    StateT.run (location.find? (m := OnTree)) t
      = (location.findIn t, t) := by
  have hisFile : ∀ path, StateT.run (Disk.isFile path : OnTree _) t
      = (t.isFile path, t) := fun _ => rfl
  unfold find? findIn
  rw [OnTree.run_bind_of_run_eq (hisFile _)]
  split
  · rfl
  · rw [OnTree.run_bind_of_run_eq (hisFile _)]
    split
    · rfl
    · rfl

/-- Loading leaves the tree alone. -/
theorem load_run (t : FileTree) (location : Location) :
    StateT.run (location.load (m := OnTree)) t
      = (location.loadFrom t, t) := by
  have hread : ∀ path, StateT.run (Disk.read path : OnTree _) t
      = (t.read path, t) := fun _ => rfl
  unfold load loadFrom
  rw [OnTree.run_bind_of_run_eq (location.find?_run t)]
  cases location.findIn t with
  | none => rfl
  | some path =>
      dsimp only
      rw [OnTree.run_bind_of_run_eq (hread path)]
      cases t.read path with
      | error e => rfl
      | ok text =>
          dsimp only
          cases Models.ofText text with
          | error reason => rfl
          | ok models => rfl

theorem load_fst (t : FileTree) (location : Location) :
    (StateT.run (location.load (m := OnTree)) t).1
      = location.loadFrom t := by
  rw [load_run]

/-- What is loaded is what a text declares. -/
theorem exists_text_of_loadFrom {t : FileTree} {location : Location}
    {models : Models} (h : location.loadFrom t = .ok models) :
    ∃ text, Models.ofText text = .ok models := by
  unfold loadFrom at h
  split at h
  case h_1 => cases h
  case h_2 path _ =>
      split at h
      case h_1 => cases h
      case h_2 text _ =>
          split at h
          case h_2 => cases h
          case h_1 found hfound =>
              cases h
              exact ⟨text, hfound⟩

theorem proper_of_loadFrom {t : FileTree} {location : Location}
    {models : Models} (h : location.loadFrom t = .ok models)
    {entry : String × Model} (hentry : entry ∈ models) :
    entry.2.Proper := by
  obtain ⟨text, htext⟩ := exists_text_of_loadFrom h
  exact Models.proper_of_ofText htext hentry

end Location

namespace TemplateOrigin

/-- The templates from an origin in a tree. -/
def selectFrom (t : FileTree) (language : String) :
    TemplateOrigin → Except GenerationError (List NamedTemplate)
  | .builtIn =>
      match Language.ofName? language with
      | some language => .ok [language.namedTemplate]
      | none => .error (.unsupportedLanguage language)
  | .file path extension =>
      match t.read path with
      | .ok source =>
          .ok [⟨.ofExtension (extension.getD plainExtension), source⟩]
      | .error cause => .error (.unreadableTemplate path cause)

/-- Selecting templates leaves the tree alone. -/
theorem select_run (t : FileTree) (language : String)
    (origin : TemplateOrigin) :
    StateT.run (origin.select (m := OnTree) language) t
      = (origin.selectFrom t language, t) := by
  have hread : ∀ path, StateT.run (Disk.read path : OnTree _) t
      = (t.read path, t) := fun _ => rfl
  cases origin with
  | builtIn =>
      unfold select selectFrom
      dsimp only
      cases Language.ofName? language with
      | none => rfl
      | some found => rfl
  | file path extension =>
      unfold select selectFrom
      dsimp only
      rw [OnTree.run_bind_of_run_eq (hread path)]
      cases t.read path with
      | error cause => rfl
      | ok source => rfl

end TemplateOrigin

namespace Options

/-- The files that options amount to in a tree. -/
def generateFrom (t : FileTree) (options : Options) :
    Except GenerationError (List OutputFile) := do
  let models ← options.document.loadFrom t
  let entries ← options.template.selectFrom t options.language
  OutputFile.ofModels entries models options.document.name
    options.grouping

/-- Generation leaves the tree alone. -/
theorem generate_run (t : FileTree) (options : Options) :
    StateT.run (options.generate (m := OnTree)) t
      = (options.generateFrom t, t) := by
  unfold generate generateFrom
  rw [OnTree.run_bind_of_run_eq (options.document.load_run t)]
  cases options.document.loadFrom t with
  | error e => rfl
  | ok models =>
      dsimp only
      rw [OnTree.run_bind_of_run_eq
        (options.template.select_run t options.language)]
      show _ = ((options.template.selectFrom t options.language >>= _), t)
      cases options.template.selectFrom t options.language with
      | error e => rfl
      | ok entries => rfl

theorem generate_fst (t : FileTree) (options : Options) :
    (StateT.run (options.generate (m := OnTree)) t).1
      = options.generateFrom t := by
  rw [generate_run]

end Options

end SchemaPress
