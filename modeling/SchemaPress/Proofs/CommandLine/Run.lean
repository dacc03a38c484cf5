/-
What a run comes to on a tree of files.

A run goes through three stages, and how far it gets can be told from
what each stage does on its own. Settings that cannot be completed end
it with the tree that the questions have left (`execute_unanswered`), and
files that cannot be generated with the same tree (`execute_ungenerated`),
since generation only looks. Otherwise it is writing that decides, and
nothing comes after it (`execute_generated`).

Writing is one request after the other: a refused one ends it and leaves
the tree as it is (`writeInto_refused`), any other changes the tree and
goes on (`writeInto_written`).
-/
import SchemaPress.CommandLine.Run
import SchemaPress.Proofs.Generation.Pipeline

namespace SchemaPress

-- ============================================================= prompting

/-- Answers that leave the tree alone. -/
def Answering.Quiet (ask : Answering OnTree) : Prop :=
  ∀ question t, (StateT.run (ask question) t).2 = t

namespace Settings

variable {ask : Answering OnTree} {t : FileTree}

theorem preserves_settle (hquiet : ask.Quiet) (question : Question)
    (given : Option String) :
    OnTree.Preserves (· = t) (settle ask question given) := by
  cases given with
  | some text => exact OnTree.preserves_pure _
  | none =>
      rintro _ rfl
      exact hquiet question _

/-- Completing settings leaves the tree alone if answers do. -/
theorem complete_run_snd (hquiet : ask.Quiet) (request : Request) :
    (StateT.run (complete ask request) t).2 = t := by
  have hpreserves : OnTree.Preserves (· = t) (complete ask request) := by
    unfold complete
    refine (preserves_settle hquiet _ _).bind fun language => ?_
    cases language with
    | error e => exact OnTree.preserves_pure _
    | ok language =>
        refine (preserves_settle hquiet _ _).bind fun template => ?_
        cases template with
        | error e => exact OnTree.preserves_pure _
        | ok template =>
            refine (preserves_settle hquiet _ _).bind fun output => ?_
            cases output with
            | error e => exact OnTree.preserves_pure _
            | ok output => exact OnTree.preserves_pure _
  exact hpreserves t rfl

end Settings

-- =============================================================== writing

namespace OutputFile

variable {directory : String} {file : OutputFile} {t t' : FileTree}

theorem writeInto_refused {e : DiskError} (rest : List OutputFile)
    (h : t.writeContent (file.path directory) (.text file.content)
      = .error e) :
    StateT.run (writeInto (m := OnTree) directory (file :: rest)) t
      = (.error (.disk e), t) := by
  have hwrite : StateT.run
      (Disk.write (file.path directory) file.content : OnTree _) t
      = (.error e, t) := by
    rw [OnTree.write_run, h]
  unfold writeInto
  rw [OnTree.run_bind_of_run_eq hwrite]
  rfl

theorem writeInto_written (rest : List OutputFile)
    (h : t.writeContent (file.path directory) (.text file.content)
      = .ok t') :
    StateT.run (writeInto (m := OnTree) directory (file :: rest)) t
      = ((StateT.run (writeInto (m := OnTree) directory rest) t').1.map
            (file.path directory :: ·),
          (StateT.run (writeInto (m := OnTree) directory rest) t').2) := by
  have hwrite : StateT.run
      (Disk.write (file.path directory) file.content : OnTree _) t
      = (.ok (), t') := by
    rw [OnTree.write_run, h]
  rw [writeInto, OnTree.run_bind_of_run_eq hwrite]
  dsimp only
  cases hrest : StateT.run (writeInto (m := OnTree) directory rest) t' with
  | mk outcome after =>
      rw [OnTree.run_bind_of_run_eq hrest]
      cases outcome with
      | error e => rfl
      | ok paths => rfl

/-- Files are written once the directory is made. -/
theorem writeAll_run (files : List OutputFile)
    {made : Except DiskError Unit}
    (h : StateT.run (Disk.makeDirectories directory : OnTree _) t
      = (made, t')) :
    StateT.run (writeAll (m := OnTree) directory files) t
      = match made with
        | .error e => (.error (.disk e), t')
        | .ok () =>
            StateT.run (writeInto (m := OnTree) directory files) t' := by
  unfold writeAll
  rw [OnTree.run_bind_of_run_eq h]
  cases made with
  | error e => rfl
  | ok _ => rfl

end OutputFile

-- ================================================================== runs

namespace Request

variable {ask : Answering OnTree} {request : Request} {t t' : FileTree}

theorem execute_unanswered {e : RunError}
    (h : StateT.run (Settings.complete ask request) t = (.error e, t')) :
    StateT.run (request.execute ask) t = (.error e, t') := by
  unfold execute
  rw [OnTree.run_bind_of_run_eq h]
  rfl

variable {settings : Settings}

theorem execute_ungenerated {e : GenerationError}
    (h : StateT.run (Settings.complete ask request) t = (.ok settings, t'))
    (hfiles : (settings.options request.extension).generateFrom t'
      = .error e) :
    StateT.run (request.execute ask) t = (.error (.generation e), t') := by
  unfold execute
  rw [OnTree.run_bind_of_run_eq h]
  dsimp only
  rw [OnTree.run_bind_of_run_eq (Options.generate_run t' _), hfiles]
  rfl

theorem execute_generated {files : List OutputFile}
    (h : StateT.run (Settings.complete ask request) t = (.ok settings, t'))
    (hfiles : (settings.options request.extension).generateFrom t'
      = .ok files) :
    StateT.run (request.execute ask) t
      = ((StateT.run (OutputFile.writeAll (m := OnTree) settings.output
            files) t').1.map (Report.mk settings.output),
          (StateT.run (OutputFile.writeAll (m := OnTree) settings.output
            files) t').2) := by
  unfold execute
  rw [OnTree.run_bind_of_run_eq h]
  dsimp only
  rw [OnTree.run_bind_of_run_eq (Options.generate_run t' _), hfiles]
  dsimp only
  cases hwritten : StateT.run
      (OutputFile.writeAll (m := OnTree) settings.output files) t' with
  | mk outcome after =>
      rw [OnTree.run_bind_of_run_eq hwritten]
      cases outcome with
      | error e => rfl
      | ok paths => rfl

end Request

end SchemaPress
