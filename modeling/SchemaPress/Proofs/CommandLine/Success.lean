/-
What a run has done that succeeds, exactly.

A run succeeds if and only if files are generated, the directory for
them can be made, and each of them is accepted there; and then the tree
that is left is the one with the directory, and with the files put at
their addresses, all of which can be told before the first file is
written (`Request.execute_eq_ok_iff`).

So a run can be taken apart and put together again on another tree. What
is needed for that is that the directory is not made twice
(`OnTree.makeDirectories_run`), and that files are accepted by every tree
with the same directories.
-/
import SchemaPress.Proofs.CommandLine.Effect
import SchemaPress.Proofs.Disk.Placing

namespace SchemaPress

/-- Steps whose value is only looked at succeed if the steps do. -/
theorem map_run_eq_ok_iff {ε α β σ : Type} {run : Except ε α × σ}
    {f : α → β} {value : β} {left : σ} :
    (run.1.map f, run.2) = (.ok value, left)
      ↔ ∃ found, run = (.ok found, left) ∧ f found = value := by
  obtain ⟨outcome, after⟩ := run
  cases outcome with
  | error e => simp [Except.map]
  | ok found => simp [Except.map, and_comm]

/-- Making a directory changes the tree, or leaves it alone if that is
refused. -/
theorem OnTree.makeDirectory_run (path : String) (t : FileTree) :
    StateT.run (Disk.makeDirectory path : OnTree _) t
      = match t.makeDirectory path with
        | .ok t' => (.ok (), t')
        | .error e => (.error e, t) := rfl

/-- A directory that is there is not made again. -/
theorem OnTree.makeDirectories_run {path : String} {t : FileTree}
    (h : path ≠ "" → t.isDirectory path = true) :
    StateT.run (Disk.makeDirectories path : OnTree _) t = (.ok (), t) := by
  unfold Disk.makeDirectories Disk.ancestors Disk.pathsUp Disk.makeFrom
  by_cases hpath : path = ""
  · rw [if_pos (by simp [hpath])]
    rfl
  · have hthere := h hpath
    obtain ⟨a, hlocate, hentry⟩ := FileTree.isDirectory_iff.1 hthere
    have hmake : t.makeDirectory path = .error .alreadyExists := by
      simp [FileTree.makeDirectory, hlocate, hentry, bind, Except.bind]
    have hrefused : StateT.run (Disk.makeDirectory path : OnTree _) t
        = (.error .alreadyExists, t) := by
      rw [OnTree.makeDirectory_run, hmake]
    have hlook : StateT.run (Disk.isDirectory path : OnTree Bool) t
        = (true, t) := by
      rw [← hthere]
      rfl
    rw [if_neg (by simpa using hpath), run_bind_of_run_eq hrefused]
    dsimp only
    rw [run_bind_of_run_eq hlook]
    rfl

namespace OutputFile

variable {directory : String} {files : List OutputFile} {t t' : FileTree}

/-- What is put where when files are written. -/
def puts (t : FileTree) (directory : String) (files : List OutputFile) :
    List (Address × Entry) :=
  files.map fun file =>
    (t.addressOf (file.path directory), .file (.text file.content))

/-- Files are put at the same places in trees with the same
directories. -/
theorem puts_eq (h : t.SameDirectories t') (directory : String)
    (files : List OutputFile) :
    puts t' directory files = puts t directory files := by
  simp only [puts, h.addressOf_eq]

/-- Writing accepted files leaves the directories as they are. -/
theorem sameDirectories_puts
    (h : ∀ file ∈ files, t.Accepts (file.path directory)) :
    t.SameDirectories (t.setAll (puts t directory files)) := by
  refine .setAll_files fun put hput => ?_
  obtain ⟨file, hfile, rfl⟩ := List.mem_map.1 hput
  exact ⟨(h file hfile).not_directory, _, rfl⟩

/-- Writing files succeeds if each of them is accepted. -/
theorem writeInto_eq_ok_iff {paths : List String} :
    StateT.run (writeInto (m := OnTree) directory files) t
        = (.ok paths, t')
      ↔ (∀ file ∈ files, t.Accepts (file.path directory))
        ∧ paths = files.map (path directory)
        ∧ t' = t.setAll (puts t directory files) := by
  induction files generalizing t paths with
  | nil =>
      constructor
      · rintro ⟨⟩
        exact ⟨nofun, rfl, rfl⟩
      · rintro ⟨-, rfl, rfl⟩
        rfl
  | cons file rest ih =>
      cases hfile : t.writeContent (file.path directory)
          (.text file.content) with
      | error e =>
          rw [writeInto_refused rest hfile]
          constructor
          · rintro ⟨⟩
          · rintro ⟨haccepts, -, -⟩
            have hwritten : t.writeContent (file.path directory)
                (.text file.content) = .ok _ :=
              FileTree.writeContent_eq_ok_iff.2
                ⟨haccepts file (List.mem_cons_self ..), rfl⟩
            rw [hfile] at hwritten
            cases hwritten
      | ok left =>
          obtain ⟨hfile', rfl⟩ := FileTree.writeContent_eq_ok_iff.1 hfile
          have hsame := FileTree.SameDirectories.set_file
            hfile'.not_directory (.text file.content)
          have hrest := @ih (t.set (t.addressOf (file.path directory))
            (.file (.text file.content)))
          simp only [hsame.accepts_iff, puts_eq hsame] at hrest
          rw [writeInto_written rest hfile, map_run_eq_ok_iff]
          simp only [hrest, List.forall_mem_cons, hfile', true_and]
          constructor
          · rintro ⟨_, ⟨haccepts, rfl, rfl⟩, rfl⟩
            exact ⟨haccepts, rfl, rfl⟩
          · rintro ⟨haccepts, rfl, rfl⟩
            exact ⟨_, ⟨haccepts, rfl, rfl⟩, rfl⟩

end OutputFile

namespace Request

/-- The settings of a request with what is suggested for all that it
leaves open. -/
def suggested (request : Request) : Settings where
  document := request.document
  language := request.language.getD Question.language.suggestion
  template := request.template.getD Question.template.suggestion
  output := request.output.getD Question.output.suggestion

theorem complete_suggested (request : Request) (t : FileTree) :
    StateT.run (Settings.complete (m := OnTree) .suggested request) t
      = (.ok request.suggested, t) := by
  obtain ⟨document, language, template, output, extension⟩ := request
  cases language <;> cases template <;> cases output <;> rfl

variable {ask : Answering OnTree} {request : Request}
  {settings : Settings} {t₀ t after : FileTree} {report : Report}

/-- A run succeeds if files are generated, the directory is made and the
files are accepted. It reports their paths, and puts the files at their
addresses. -/
theorem execute_eq_ok_iff
    (hsettings : StateT.run (Settings.complete ask request) t₀
      = (.ok settings, t)) :
    StateT.run (request.execute ask) t₀ = (.ok report, after)
      ↔ ∃ files made,
        (settings.options request.extension).generateFrom t = .ok files
        ∧ StateT.run (Disk.makeDirectories settings.output : OnTree _) t
          = (.ok (), made)
        ∧ (∀ file ∈ files, made.Accepts (file.path settings.output))
        ∧ report = ⟨settings.output,
            files.map (OutputFile.path settings.output)⟩
        ∧ after = made.setAll
            (OutputFile.puts made settings.output files) := by
  cases hfiles : (settings.options request.extension).generateFrom t with
  | error e =>
      rw [execute_ungenerated hsettings hfiles]
      constructor
      · rintro ⟨⟩
      · rintro ⟨_, _, ⟨⟩, -⟩
  | ok files =>
      rw [execute_generated hsettings hfiles, map_run_eq_ok_iff]
      cases hmade : StateT.run
          (Disk.makeDirectories settings.output : OnTree _) t with
      | mk outcome made =>
          cases outcome with
          | error e =>
              have hwrite : StateT.run (OutputFile.writeAll (m := OnTree)
                  settings.output files) t = (.error (.disk e), made) :=
                OutputFile.writeAll_run files hmade
              rw [hwrite]
              constructor
              · rintro ⟨_, ⟨⟩, -⟩
              · rintro ⟨_, _, -, ⟨⟩, -⟩
          | ok _ =>
              have hwrite : StateT.run (OutputFile.writeAll (m := OnTree)
                  settings.output files) t
                  = StateT.run (OutputFile.writeInto (m := OnTree)
                    settings.output files) made :=
                OutputFile.writeAll_run files hmade
              rw [hwrite]
              constructor
              · rintro ⟨paths, hpaths, rfl⟩
                obtain ⟨haccepts, rfl, rfl⟩ :=
                  OutputFile.writeInto_eq_ok_iff.1 hpaths
                exact ⟨files, made, rfl, rfl, haccepts, rfl, rfl⟩
              · rintro ⟨_, _, ⟨⟩, ⟨⟩, haccepts, rfl, rfl⟩
                exact ⟨_, OutputFile.writeInto_eq_ok_iff.2
                  ⟨haccepts, rfl, rfl⟩, rfl⟩

end Request

end SchemaPress
