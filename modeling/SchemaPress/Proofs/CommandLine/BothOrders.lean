/-
The built-in templates of two languages, one after the other.

Both can be rendered into one directory, and it does not matter which
goes first (`Request.execute_both_orders`): neither run can write over a
file of the other or over the document, whatever the models are called.

A name may hold slashes and dots and lead anywhere. But a path that ends
in three letters, none of them a slash, leads to an entry whose name ends
in these letters (`FileTree.ending?_of_locate`), and no two of the
extensions involved end in the same letter.
-/
import SchemaPress.Proofs.CommandLine.Regeneration
import SchemaPress.Proofs.Generation.BuiltIn

namespace SchemaPress

-- ================================================================ endings

namespace FileTree

variable {t : FileTree} {a : Address}

/-- The last letter of the name at an address. -/
def ending? (a : Address) : Option Char :=
  a.getLast?.bind fun name => name.toList.getLast?

/-- The last step of a path ends as the path does, up to its last
slash. -/
theorem exists_step_of_locate {path : String} {front tail : List Char}
    (hpath : path.toList = front ++ tail) (hslash : '/' ∉ tail)
    (htail : tail ≠ []) (h : t.locate path = .ok a) :
    ∃ c stem, t.step c (String.ofList (stem ++ tail)) = .ok a := by
  obtain ⟨before, stem, hsegments⟩ :=
    Path.exists_segments_concat hslash front
  have hsteps : ∃ names,
      steps path = names ++ [String.ofList (stem ++ tail)] := by
    rw [steps, hpath, hsegments, List.filter_append, List.map_append,
      List.filter_cons_of_pos (by simp [htail])]
    exact ⟨_, rfl⟩
  obtain ⟨names, hsteps⟩ := hsteps
  have hreach := reach_of_locate h
  rw [reach, hsteps, walk_append] at hreach
  obtain ⟨c, -, hreach⟩ := exists_of_bind_eq_ok hreach
  exact ⟨c, stem, (walk_singleton ..).symm.trans hreach⟩

/-- A path that ends in three letters or more without slash leads to an
entry whose name ends in the same letter. -/
theorem ending?_of_locate {path : String} {front tail : List Char}
    (hpath : path.toList = front ++ tail) (hslash : '/' ∉ tail)
    (hlength : 2 < tail.length) (h : t.locate path = .ok a) :
    ending? a = tail.getLast? := by
  have htail : tail ≠ [] := by
    rintro rfl
    cases hlength
  obtain ⟨c, stem, hstep⟩ := exists_step_of_locate hpath hslash htail h
  -- the dots that do not count as names are shorter
  have hlong : ∀ dots : String, dots.toList.length ≤ 2 →
      String.ofList (stem ++ tail) ≠ dots := by
    rintro dots hdots rfl
    rw [String.toList_ofList, List.length_append] at hdots
    omega
  rcases step_cases hstep with ⟨hdot, -⟩ | ⟨hdots, -⟩ | rfl
  · exact absurd hdot (hlong "." (by decide))
  · exact absurd hdots (hlong ".." (by decide))
  · rw [ending?, List.getLast?_concat, Option.bind_some,
      String.toList_ofList, List.getLast?_append_of_ne_nil _ htail]

/-- The same for a path behind a directory. -/
theorem ending?_of_locate_join {directory name : String} (tail : String)
    (hslash : '/' ∉ tail.toList) (hlength : 2 < tail.toList.length)
    (h : t.locate (Path.join directory (name ++ tail)) = .ok a) :
    ending? a = tail.toList.getLast? := by
  obtain ⟨front, hfront⟩ := Path.exists_join_eq directory (name ++ tail)
  rw [String.toList_append, ← List.append_assoc] at hfront
  exact ending?_of_locate hfront hslash hlength h

end FileTree

/-- The document ends in a letter of its own. -/
theorem Location.ending?_of_candidate {t : FileTree} {a : Address}
    {location : Location} {path : String}
    (hpath : path ∈ location.candidates) (h : t.locate path = .ok a) :
    FileTree.ending? a = some 'l' := by
  simp only [candidates, List.mem_cons, List.not_mem_nil, or_false]
    at hpath
  rcases hpath with rfl | rfl
  · exact FileTree.ending?_of_locate_join ".yml" (by decide)
      (by decide) h
  · exact FileTree.ending?_of_locate_join ".yaml" (by decide)
      (by decide) h

-- =========================================================== built-in files

namespace Language

/-- The last letter of the files of a language. -/
def ending : Language → Char
  | .typeScript => 's'
  | .java => 'a'

theorem ending_injective {language other : Language}
    (h : language.ending = other.ending) : language = other := by
  cases language <;> cases other <;> first | rfl | cases h

/-- A file that has the extension of a language ends in its letter. -/
theorem ending?_of_locate {t : FileTree} {a : Address}
    {directory name : String} (language : Language)
    (h : t.locate (Path.join directory
      (name ++ ("." ++ language.extension))) = .ok a) :
    FileTree.ending? a = some language.ending := by
  cases language with
  | typeScript =>
      exact FileTree.ending?_of_locate_join ".ts" (by decide)
        (by decide) h
  | java =>
      exact FileTree.ending?_of_locate_join ".java" (by decide)
        (by decide) h

end Language

namespace Options

/-- Options for the built-in template of a language. -/
structure BuiltIn (options : Options) (language : Language) : Prop where
  template_eq : options.template = .builtIn
  ofName?_eq : Language.ofName? options.language = some language

variable {t t' : FileTree} {options : Options} {language : Language}
  {files : List OutputFile}

/-- A file from a built-in template ends in the letter of the
language. -/
theorem BuiltIn.ending?_of_locate (h : options.BuiltIn language)
    (hfiles : options.generateFrom t = .ok files) {file : OutputFile}
    (hfile : file ∈ files) {directory : String} {a : Address}
    (ha : t'.locate (file.path directory) = .ok a) :
    FileTree.ending? a = some language.ending := by
  obtain ⟨models, -, hfiles⟩ := exists_of_bind_eq_ok hfiles
  rw [h.template_eq, TemplateOrigin.selectFrom, h.ofName?_eq] at hfiles
  have hname := List.mem_map_of_mem (f := OutputFile.name) hfile
  rw [OutputFile.names_ofTemplates hfiles, List.flatMap_singleton] at hname
  obtain ⟨subject, -, hsubject⟩ := List.mem_map.1 hname
  rw [Language.nameFor_namedTemplate] at hsubject
  rw [OutputFile.path, ← hsubject] at ha
  exact language.ending?_of_locate ha

/-- The files from a built-in template do not go where the document
is. -/
theorem BuiltIn.apart_of_candidate (h : options.BuiltIn language)
    (hfiles : options.generateFrom t = .ok files) (location : Location)
    (directory : String) :
    ∀ file ∈ files, ∀ source ∈ location.candidates, ∀ a,
      t'.locate (file.path directory) = .ok a →
      t'.locate source ≠ .ok a := by
  intro file hfile source hsource a ha hsame
  have hending := h.ending?_of_locate hfiles hfile ha
  rw [Location.ending?_of_candidate hsource hsame] at hending
  cases language <;> cases hending

/-- The files from the built-in templates of two languages do not go to
the same places. -/
theorem BuiltIn.puts_apart {others : Options} {other : Language}
    {otherFiles : List OutputFile} {directory : String}
    (h : options.BuiltIn language) (hother : others.BuiltIn other)
    (hne : language ≠ other)
    (hfiles : options.generateFrom t = .ok files)
    (hotherFiles : others.generateFrom t = .ok otherFiles)
    (haccepts : ∀ file ∈ files, t'.Accepts (file.path directory))
    (hotherAccepts : ∀ file ∈ otherFiles,
      t'.Accepts (file.path directory)) :
    ∀ put ∈ OutputFile.puts t' directory files,
      ∀ last ∈ OutputFile.puts t' directory otherFiles,
        put.1 ≠ last.1 := by
  intro put hput last hlast hsame
  obtain ⟨file, hfile, rfl⟩ := List.mem_map.1 hput
  obtain ⟨otherFile, hotherFile, rfl⟩ := List.mem_map.1 hlast
  have hending := h.ending?_of_locate hfiles hfile
    (haccepts file hfile).locate_eq
  have hotherEnding := hother.ending?_of_locate hotherFiles hotherFile
    (hotherAccepts otherFile hotherFile).locate_eq
  dsimp only at hsame
  rw [hsame, hotherEnding] at hending
  exact hne (Language.ending_injective (Option.some.inj hending).symm)

/-- A built-in template makes the same of the same models. -/
theorem BuiltIn.generateFrom_eq (h : options.BuiltIn language)
    {models : Models} (hload : options.document.loadFrom t = .ok models)
    (hload' : options.document.loadFrom t' = .ok models) :
    options.generateFrom t' = options.generateFrom t := by
  rw [generateFrom, generateFrom, hload, hload', h.template_eq]
  rfl

end Options

namespace Request

/-- If the built-in templates of two languages are rendered one after the
other, of one document and into one directory, and both runs succeed,
then they do so in the other order as well. Each reports what it has
reported, and in the end there is the same on the disk. -/
theorem execute_both_orders {first second : Request}
    {language other : Language} {t between after : FileTree}
    {report report' : Report}
    (hdocument : second.document = first.document)
    (houtput : second.suggested.output = first.suggested.output)
    (hfirst : first.suggestedOptions.BuiltIn language)
    (hsecond : second.suggestedOptions.BuiltIn other)
    (hne : language ≠ other)
    (hrun : StateT.run (first.execute (m := OnTree) .suggested) t
      = (.ok report, between))
    (hrun' : StateT.run (second.execute (m := OnTree) .suggested) between
      = (.ok report', after)) :
    ∃ between' after',
      StateT.run (second.execute (m := OnTree) .suggested) t
        = (.ok report', between')
      ∧ StateT.run (first.execute (m := OnTree) .suggested) between'
        = (.ok report, after')
      ∧ after.Same after' := by
  obtain ⟨files, made, hfiles, hmade, haccepts, rfl, rfl⟩ :=
    (execute_eq_ok_iff (first.complete_suggested t)).1 hrun
  obtain ⟨files', made', hfiles', hmade', haccepts', rfl, rfl⟩ :=
    (execute_eq_ok_iff (second.complete_suggested _)).1 hrun'
  have hlocation : second.suggestedOptions.document
      = first.suggestedOptions.document := congrArg Location.ofPath hdocument
  have hslash := first.slash_notMem_document
  -- the second run finds the directory and the same models
  rw [houtput] at hmade' haccepts'
  have hsame := OutputFile.sameDirectories_puts haccepts
  rw [OnTree.makeDirectories_again hmade hsame] at hmade'
  cases hmade'
  simp only [hsame.accepts_iff] at haccepts'
  have hsame' := OutputFile.sameDirectories_puts haccepts'
  obtain ⟨models, hload, -⟩ := exists_of_bind_eq_ok hfiles
  have hloadBetween := Location.loadFrom_of_spares hslash
    (OutputFile.spares_puts hmade haccepts
      (hfirst.apart_of_candidate hfiles _ _)) hload
  -- so it can go first
  have hfilesFirst : second.suggestedOptions.generateFrom t = .ok files' :=
    (hsecond.generateFrom_eq (hlocation ▸ hloadBetween)
      (hlocation ▸ hload)).trans hfiles'
  have hloadBetween' := Location.loadFrom_of_spares hslash
    (OutputFile.spares_puts hmade haccepts'
      (hsecond.apart_of_candidate hfilesFirst _ _)) hload
  have hapart := hfirst.puts_apart hsecond hne hfiles hfilesFirst haccepts
    haccepts'
  refine ⟨made.setAll (OutputFile.puts made first.suggested.output files'),
    (made.setAll (OutputFile.puts made first.suggested.output
      files')).setAll (OutputFile.puts made first.suggested.output files),
    ?_, ?_, ?_⟩
  · rw [execute_eq_ok_iff (second.complete_suggested t), houtput]
    exact ⟨files', made, hfilesFirst, hmade, haccepts', rfl, rfl⟩
  · rw [execute_eq_ok_iff (first.complete_suggested _)]
    refine ⟨files, _, ?_, OnTree.makeDirectories_again hmade hsame',
      fun file hfile => hsame'.accepts (haccepts file hfile), rfl, ?_⟩
    · exact (hfirst.generateFrom_eq hload hloadBetween').trans hfiles
    · rw [OutputFile.puts_eq hsame']
  · rw [houtput, OutputFile.puts_eq hsame]
    exact FileTree.setAll_comm hapart made

/-- A request for the built-in template of a language. -/
def builtIn (language : String) : Request :=
  ⟨"a.yml", some language, none, some "out", none⟩

/-- A model that is called like the document of all models, and one that
is called like a file above, disturb neither language. -/
theorem execute_both_orders_upward :
    ∃ report report' between after between' after',
      report.written = ["out/a.ts"]
      ∧ report'.written = ["out/a.java", "out/../a.yml.java"]
      ∧ StateT.run ((builtIn "typescript").execute (m := OnTree)
          .suggested) (declaringAll ["a", "../a.yml"] "")
        = (.ok report, between)
      ∧ StateT.run ((builtIn "Java").execute (m := OnTree) .suggested)
          between = (.ok report', after)
      ∧ StateT.run ((builtIn "Java").execute (m := OnTree) .suggested)
          (declaringAll ["a", "../a.yml"] "") = (.ok report', between')
      ∧ StateT.run ((builtIn "typescript").execute (m := OnTree)
          .suggested) between' = (.ok report, after')
      ∧ after.Same after' := by
  have hruns : passes (fun report => report.written == ["out/a.ts"])
      (StateT.run ((builtIn "typescript").execute (m := OnTree)
        .suggested) (declaringAll ["a", "../a.yml"] "")).1 = true := by
    decide +kernel
  have hruns' : passes (fun report =>
        report.written == ["out/a.java", "out/../a.yml.java"])
      (StateT.run ((builtIn "Java").execute (m := OnTree) .suggested)
        (StateT.run ((builtIn "typescript").execute (m := OnTree)
          .suggested) (declaringAll ["a", "../a.yml"] "")).2).1
        = true := by
    decide +kernel
  obtain ⟨report, between, hrun, hwritten⟩ := exists_of_passes_fst hruns
  rw [hrun] at hruns'
  obtain ⟨report', after, hrun', hwritten'⟩ :=
    exists_of_passes_fst hruns'
  have htypeScript : (builtIn "typescript").suggestedOptions.BuiltIn
      .typeScript := ⟨rfl, by decide⟩
  have hjava : (builtIn "Java").suggestedOptions.BuiltIn .java :=
    ⟨rfl, by decide⟩
  have hdocument : (builtIn "Java").document
      = (builtIn "typescript").document := rfl
  have houtput : (builtIn "Java").suggested.output
      = (builtIn "typescript").suggested.output := rfl
  obtain ⟨between', after', hsecond, hfirst, hsame⟩ :=
    execute_both_orders hdocument houtput htypeScript hjava (by decide)
      hrun hrun'
  exact ⟨report, report', between, after, between', after',
    beq_iff_eq.1 hwritten, beq_iff_eq.1 hwritten', hrun, hrun', hsecond,
    hfirst, hsame⟩

end Request

end SchemaPress
