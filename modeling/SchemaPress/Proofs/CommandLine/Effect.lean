/-
What a run leaves behind, however it ends.

A run that does not get as far as writing leaves the tree as the
questions left it; there is no directory for the output then. A run that
writes makes directories for the output first. From then on the files are
written in order until one is refused, and whatever stands at the end is
accounted for by the directories that were made and the files that were
written (`FileTree.Written`).

The induction is on the files that are still to be written, and the
account is what it carries along: a file that is written adds to it, a
file that is refused leaves it as it is (`exists_written_of_writeInto`).
How far writing got and what it reports hang together, and `Ended` says
how: all files and their paths, or the files before one that is refused,
or no file because there is no directory for them.
-/
import SchemaPress.Proofs.CommandLine.Containment
import SchemaPress.Proofs.Disk.Written

namespace SchemaPress

namespace OutputFile

variable {directory : String} {made : List Address}
  {done : List (String × String)} {before t : FileTree}

/-- What is written of a file: its path and its text. -/
def target (directory : String) (file : OutputFile) : String × String :=
  (file.path directory, file.content)

/-- How writing ends that starts at a tree: when so many files have been
written, with what tree and with what report. Files are only written once
the directory is there. -/
inductive Ended (before : FileTree) (directory : String)
    (files : List OutputFile) :
    Nat → FileTree → Except RunError (List String) → Prop
  /-- All files are written, and their paths are reported in order. -/
  | all {after : FileTree}
      (hthere : directory ≠ "" → after.isDirectory directory = true) :
      Ended before directory files files.length after
        (.ok (files.map (path directory)))
  /-- The directory cannot be made, so no file is written. -/
  | unmade {after : FileTree} {e : DiskError}
      (hunmade : StateT.run (Disk.makeDirectories directory : OnTree _)
        before = (.error e, after)) :
      Ended before directory files 0 after (.error (.disk e))
  /-- A file is refused, and those before it are written. -/
  | refused {k : Nat} {after : FileTree} {file : OutputFile} {e : DiskError}
      (hthere : directory ≠ "" → after.isDirectory directory = true)
      (hfile : files[k]? = some file)
      (hrefused : after.writeContent (file.path directory)
        (.text file.content) = .error e) :
      Ended before directory files k after (.error (.disk e))

/-- Files that are written after others are written in order, until one
of them is refused. -/
theorem exists_written_of_writeInto (files : List OutputFile)
    (h : before.Written directory made done t) :
    ∃ k outcome after,
      StateT.run (writeInto (m := OnTree) directory files) t
        = (outcome, after)
      ∧ before.Written directory made
          (done ++ (files.take k).map (target directory)) after
      ∧ ((k = files.length ∧ outcome = .ok (files.map (path directory)))
        ∨ ∃ file e, files[k]? = some file
            ∧ after.writeContent (file.path directory)
                (.text file.content) = .error e
            ∧ outcome = .error (.disk e)) := by
  induction files generalizing done t with
  | nil =>
      refine ⟨0, .ok [], t, rfl, ?_, .inl ⟨rfl, rfl⟩⟩
      simpa using h
  | cons file rest ih =>
      cases hfile : t.writeContent (file.path directory)
          (.text file.content) with
      | error e =>
          refine ⟨0, _, t, writeInto_refused rest hfile, ?_,
            .inr ⟨file, e, rfl, hfile, rfl⟩⟩
          simpa using h
      | ok t' =>
          obtain ⟨k, outcome, after, hrun, hwritten, hend⟩ :=
            ih (h.writeContent hfile)
          refine ⟨k + 1, outcome.map (file.path directory :: ·), after,
            ?_, ?_, ?_⟩
          · rw [writeInto_written rest hfile, hrun]
          · rw [List.append_assoc] at hwritten
            exact hwritten
          · rcases hend with ⟨rfl, rfl⟩ | ⟨last, e, hlast, hrefused, rfl⟩
            · exact .inl ⟨rfl, rfl⟩
            · exact .inr ⟨last, e, hlast, hrefused, rfl⟩

/-- Writing takes no directory away, also when it is broken off. -/
theorem preserves_isDirectory_writeInto (directory : String)
    (files : List OutputFile) :
    OnTree.Preserves (·.isDirectory directory = true)
      (writeInto (m := OnTree) directory files) := by
  refine preserves_writeInto ?_
  intro file _ t t' hthere hwritten
  obtain ⟨a, -, hnot, rfl⟩ := FileTree.writeContent_eq_ok hwritten
  exact FileTree.isDirectory_set hnot _ hthere

/-- Making directories is accounted for, whether or not it comes to its
end. -/
theorem exists_written_of_makeDirectories (before : FileTree)
    (directory : String) :
    ∃ made, before.Written directory made [] (StateT.run
      (Disk.makeDirectories directory : OnTree _) before).2 := by
  have hpreserves : OnTree.Preserves
      (fun t => ∃ made, before.Written directory made [] t)
      (Disk.makeDirectories directory : OnTree _) := by
    refine OnTree.preserves_makeDirectories ?_
    rintro path hpath t t' ⟨made, h⟩ hmade
    obtain ⟨a, h⟩ := h.makeDirectory hpath hmade
    exact ⟨a :: made, h⟩
  exact hpreserves before ⟨[], .refl before directory⟩

/-- Whatever becomes of writing, there are directories that have been
made and a number of files that have been written, and that is all. -/
theorem exists_written_of_writeAll (before : FileTree)
    (directory : String) (files : List OutputFile) :
    ∃ made k outcome after,
      StateT.run (writeAll (m := OnTree) directory files) before
        = (outcome, after)
      ∧ before.Written directory made
          ((files.take k).map (target directory)) after
      ∧ Ended before directory files k after outcome := by
  obtain ⟨made, hmade⟩ := exists_written_of_makeDirectories before directory
  cases hrun : StateT.run (Disk.makeDirectories directory : OnTree _)
      before with
  | mk result t =>
      rw [hrun] at hmade
      rw [writeAll_run files hrun]
      cases result with
      | error e => exact ⟨made, 0, _, t, rfl, hmade, .unmade hrun⟩
      | ok _ =>
          obtain ⟨k, outcome, after, hafter, hwritten, hend⟩ :=
            exists_written_of_writeInto files hmade
          have hthere : directory ≠ "" →
              after.isDirectory directory = true := by
            intro hdirectory
            have hkept := preserves_isDirectory_writeInto directory files t
              (OnTree.achieves_makeDirectories hdirectory before t hrun)
            rwa [hafter] at hkept
          refine ⟨made, k, outcome, after, hafter, hwritten, ?_⟩
          rcases hend with ⟨rfl, rfl⟩ | ⟨file, e, hfile, hrefused, rfl⟩
          · exact .all hthere
          · exact .refused hthere hfile hrefused

end OutputFile

namespace Request

/-- A run that is not answered, or generates no files, leaves the tree as
the questions left it, which is as it was if they leave it alone. A run
that generates files makes directories for the output and writes the
files in order, all of them or those before one that is refused, and
changes nothing else; if it succeeds, it reports the paths of all files in
order. -/
theorem execute_effect (ask : Answering OnTree) (request : Request)
    (t : FileTree) :
    ∃ answers asked,
      StateT.run (Settings.complete ask request) t = (answers, asked)
      ∧ (ask.Quiet → asked = t)
      ∧ (∀ e, answers = .error e →
          StateT.run (request.execute ask) t = (.error e, asked))
      ∧ ∀ settings, answers = .ok settings →
          (∀ e, (StateT.run ((settings.options request.extension).generate
                (m := OnTree)) asked).1 = .error e →
            StateT.run (request.execute ask) t
              = (.error (.generation e), asked))
          ∧ ∀ files, (StateT.run ((settings.options
                request.extension).generate (m := OnTree)) asked).1
                = .ok files →
            ∃ made k outcome after,
              StateT.run (request.execute ask) t
                = (outcome.map (Report.mk settings.output), after)
              ∧ asked.Written settings.output made
                  ((files.take k).map (OutputFile.target settings.output))
                  after
              ∧ OutputFile.Ended asked settings.output files k after
                  outcome := by
  cases hanswers : StateT.run (Settings.complete ask request) t with
  | mk answers asked =>
      refine ⟨answers, asked, rfl, ?_, ?_, ?_⟩
      · intro hquiet
        have hsame := Settings.complete_run_snd hquiet (t := t) request
        rw [hanswers] at hsame
        exact hsame
      · rintro e rfl
        exact execute_unanswered hanswers
      · rintro settings rfl
        rw [Options.generate_fst]
        refine ⟨fun e hfiles => execute_ungenerated hanswers hfiles, ?_⟩
        intro files hfiles
        obtain ⟨made, k, outcome, after, hrun, hwritten, hend⟩ :=
          OutputFile.exists_written_of_writeAll asked settings.output files
        refine ⟨made, k, outcome, after, ?_, hwritten, hend⟩
        rw [execute_generated hanswers hfiles, hrun]

/-- A tree with a document that declares some models, each given as the
key it is written with, and a template. -/
def declaringAll (models : List String) (template : String) : FileTree where
  here := []
  entries :=
    [(["a.yml"], .file (.text
        ("components:\n schemas:\n" ++ String.join
          (models.map fun model => "  " ++ model ++ ": \x7b\x7d\n")))),
      (["page"], .file (.text template))]

/-- A run that is refused the second file, for which there is no
directory, has written the first, and nothing else has changed but the
directory made for it. -/
theorem execute_effect_halfway :
    ∃ made after,
      StateT.run (pages.execute (m := OnTree) .suggested)
          (declaringAll ["User", "gone/Team"] "page")
        = (.error (.disk .notFound), after)
      ∧ (declaringAll ["User", "gone/Team"] "page").Written "out" made
          [("out/User.txt", "page")] after
      ∧ after.writeContent "out/gone/Team.txt" (.text "page")
        = .error .notFound := by
  let before := declaringAll ["User", "gone/Team"] "page"
  obtain ⟨answers, asked, hanswers, hquiet, -, hsettled⟩ :=
    execute_effect .suggested pages before
  obtain rfl := hquiet fun _ _ => rfl
  have hsettings : answers = .ok pageSettings :=
    (congrArg Prod.fst hanswers).symm
  have hgenerates : passes (fun files =>
      files == [⟨"User.txt", "page"⟩, ⟨"gone/Team.txt", "page"⟩])
      (StateT.run ((pageSettings.options pages.extension).generate
        (m := OnTree)) before).1 = true := by
    decide +kernel
  obtain ⟨files, hgenerate, hfiles⟩ := exists_of_passes hgenerates
  obtain rfl := beq_iff_eq.1 hfiles
  obtain ⟨made, k, outcome, after, hrun, hwritten, hend⟩ :=
    (hsettled pageSettings hsettings).2 _ hgenerate
  have hfails : (StateT.run (pages.execute (m := OnTree) .suggested)
      before).1 = .error (.disk .notFound) := by
    decide +kernel
  have hpage : (StateT.run (pages.execute (m := OnTree) .suggested)
      before).2.entryAt? ["out", "User.txt"]
        = some (.file (.text "page")) := by
    decide +kernel
  rw [hrun] at hfails hpage
  have hk : k ≠ 0 := by
    rintro rfl
    by_cases hmade : ["out", "User.txt"] ∈ made
    · have hdirectory := (hwritten.made_new _ hmade).2
      rw [hpage] at hdirectory
      cases hdirectory
    · have hnone := hwritten.unchanged _ hmade nofun
      rw [hpage] at hnone
      exact absurd hnone (by decide)
  cases hend with
  | all => cases hfails
  | unmade => exact absurd rfl hk
  | refused _ hfile hrefused =>
      cases hfails
      match k, hk, hfile with
      | 1, _, rfl => exact ⟨made, after, hrun, hwritten, hrefused⟩

end Request

end SchemaPress
