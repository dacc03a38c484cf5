/-
What a run can change on the disk.

The names of generated files have a slash exactly where the names they
are made from have one (`Options.slash_free_iff`): nothing on the way
removes a slash, and as long as the extension has none, nothing adds one.
Behind the path of the output directory, a file without slash in its name
is written into the directory or not at all. So a run changes nothing
outside of it but makes directories, provided that its files have bare
names (`Request.contained_of_slash_free`).

That is the case exactly if the models share a file, which is named after
the document, or have bare names themselves
(`Request.bare_and_contained_iff`). There is no such guarantee for a
model that is named like a path: it is written where the path leads
(`Request.not_bare_and_contained_upward`).
-/
import SchemaPress.Proofs.CommandLine.Run
import SchemaPress.Proofs.Disk.Containment
import SchemaPress.Proofs.Disk.Steps
import SchemaPress.Proofs.Generation.FileName
import SchemaPress.Proofs.Generation.Location
import SchemaPress.Proofs.Generation.Output
import SchemaPress.Proofs.Generation.Pipeline
import SchemaPress.Proofs.Outcome

namespace SchemaPress

-- ================================================================= names

namespace TemplateOrigin

/-- If an extension of the output is asked for, then it has no slash. -/
def SlashFree : TemplateOrigin → Prop
  | .builtIn => True
  | .file _ extension => ∀ text, extension = some text → '/' ∉ text.toList

/-- One template is selected, and its extension has no slash unless one
was asked for that has. -/
theorem exists_of_selectFrom {t : FileTree} {language : String}
    {origin : TemplateOrigin} {entries : List NamedTemplate}
    (h : origin.selectFrom t language = .ok entries) :
    ∃ extension source, entries = [⟨.ofExtension extension, source⟩]
      ∧ (origin.SlashFree → '/' ∉ extension.toList) := by
  cases origin with
  | builtIn =>
      cases hname : Language.ofName? language with
      | none =>
          rw [selectFrom, hname] at h
          cases h
      | some target =>
          rw [selectFrom, hname] at h
          cases h
          refine ⟨target.extension, target.template, rfl, fun _ => ?_⟩
          cases target <;> decide
  | file path extension =>
      cases hread : t.read path with
      | error cause =>
          rw [selectFrom, hread] at h
          cases h
      | ok source =>
          rw [selectFrom, hread] at h
          cases h
          refine ⟨extension.getD plainExtension, source, rfl, ?_⟩
          intro hfree
          cases extension with
          | none => decide
          | some text => exact hfree text rfl

end TemplateOrigin

namespace Options

/-- Files are named after the subjects, with one extension. -/
theorem exists_of_generateFrom {t : FileTree} {options : Options}
    {models : Models} {files : List OutputFile}
    (hload : options.document.loadFrom t = .ok models)
    (hfiles : options.generateFrom t = .ok files) :
    ∃ extension, (options.template.SlashFree → '/' ∉ extension.toList)
      ∧ files.map OutputFile.name
        = (models.subjects options.grouping options.document.name).map
            fun subject =>
              (NamePattern.ofExtension extension).nameFor subject.1 := by
  obtain ⟨loaded, hloaded, hfiles⟩ := exists_of_bind_eq_ok hfiles
  rw [hload] at hloaded
  cases hloaded
  obtain ⟨entries, hselect, hfiles⟩ := exists_of_bind_eq_ok hfiles
  obtain ⟨extension, source, rfl, hfree⟩ :=
    TemplateOrigin.exists_of_selectFrom hselect
  refine ⟨extension, hfree, ?_⟩
  rw [OutputFile.names_ofTemplates hfiles, List.flatMap_singleton]

/-- The names of generated files have no slash exactly if the names they
are made from have none. -/
theorem slash_free_iff {t : FileTree} {options : Options}
    {models : Models} {files : List OutputFile}
    (hfree : options.template.SlashFree)
    (hload : options.document.loadFrom t = .ok models)
    (hfiles : options.generateFrom t = .ok files) :
    (∀ file ∈ files, '/' ∉ file.name.toList)
      ↔ ∀ subject ∈
          models.subjects options.grouping options.document.name,
        '/' ∉ subject.1.toList := by
  obtain ⟨extension, hextension, hnames⟩ :=
    exists_of_generateFrom hload hfiles
  have hslash := NamePattern.slash_mem_nameFor_iff (hextension hfree)
  rw [← List.forall_mem_map (P := fun name : String => '/' ∉ name.toList)
    (f := OutputFile.name), hnames, List.forall_mem_map]
  simp only [hslash]

theorem name_ne_empty_of_generateFrom {t : FileTree} {options : Options}
    {files : List OutputFile} (hfiles : options.generateFrom t = .ok files)
    {file : OutputFile} (hfile : file ∈ files) : file.name ≠ "" := by
  obtain ⟨models, hload, -⟩ := exists_of_bind_eq_ok hfiles
  obtain ⟨extension, -, hnames⟩ := exists_of_generateFrom hload hfiles
  have hname := List.mem_map_of_mem (f := OutputFile.name) hfile
  rw [hnames] at hname
  obtain ⟨subject, -, hsubject⟩ := List.mem_map.1 hname
  rw [← hsubject]
  exact NamePattern.nameFor_ne_empty extension subject.1

end Options

-- ================================================================ writing

namespace OutputFile

/-- What the writing of each file preserves, writing them all preserves,
also when it is broken off. -/
theorem preserves_writeInto {P : FileTree → Prop} {directory : String}
    {files : List OutputFile}
    (hwrite : ∀ file ∈ files, ∀ t t', P t →
      t.writeContent (file.path directory) (.text file.content) = .ok t' →
      P t') :
    OnTree.Preserves P (writeInto (m := OnTree) directory files) := by
  induction files with
  | nil => exact OnTree.preserves_pure _
  | cons file rest ih =>
      have hfirst : OnTree.Preserves P
          (Disk.write (file.path directory) file.content : OnTree _) :=
        OnTree.preserves_change (hwrite file (List.mem_cons_self ..))
      have hrest := ih fun other hother =>
        hwrite other (List.mem_cons_of_mem _ hother)
      unfold writeInto
      refine hfirst.bind ?_
      intro written
      cases written with
      | error e => exact OnTree.preserves_pure _
      | ok _ =>
          refine hrest.bind ?_
          intro paths
          cases paths with
          | error e => exact OnTree.preserves_pure _
          | ok paths => exact OnTree.preserves_pure _

/-- Writing files with bare names changes nothing outside of the
directory but makes directories. -/
theorem preserves_writeAll {before : FileTree} {directory : String}
    {files : List OutputFile}
    (hname : ∀ file ∈ files, file.name ≠ "")
    (hslash : ∀ file ∈ files, '/' ∉ file.name.toList) :
    OnTree.Preserves (before.ContainedIn directory)
      (writeAll (m := OnTree) directory files) := by
  unfold writeAll
  refine OnTree.Preserves.bind
    (OnTree.preserves_makeDirectories ?_) ?_
  · intro path _ t t' h hmade
    exact h.makeDirectory hmade
  · intro made
    cases made with
    | error e => exact OnTree.preserves_pure _
    | ok _ =>
        refine preserves_writeInto ?_
        intro file hfile t t' h hwritten
        exact h.writeContent (hname file hfile) (hslash file hfile)
          hwritten

end OutputFile

-- =================================================================== runs

namespace Request

/-- What a run with complete settings makes of the tree. -/
theorem execute_run {ask : Answering OnTree} {request : Request}
    {settings : Settings} {t t' : FileTree}
    (h : StateT.run (Settings.complete ask request) t
      = (.ok settings, t')) :
    (StateT.run (request.execute ask) t).2
      = match (settings.options request.extension).generateFrom t' with
        | .error _ => t'
        | .ok files => (StateT.run
            (OutputFile.writeAll (m := OnTree) settings.output files)
            t').2 := by
  cases hfiles : (settings.options request.extension).generateFrom t' with
  | error e => rw [execute_ungenerated h hfiles]
  | ok files => rw [execute_generated h hfiles]

theorem slashFree_options {extension : Option String}
    (h : ∀ text, extension = some text → '/' ∉ text.toList)
    (settings : Settings) :
    (settings.options extension).template.SlashFree := by
  show ((TemplateOrigin.ofText (some settings.template)).withExtension
    extension).SlashFree
  unfold TemplateOrigin.ofText
  simp only
  split
  · exact trivial
  · exact h

/-- The names that a run makes file names from are those of the models,
or one without slash. -/
theorem slash_free_subjects_iff (settings : Settings) (models : Models) :
    (∀ subject ∈ models.subjects (.ofLanguage settings.language)
        (Location.ofPath settings.document).name,
      '/' ∉ subject.1.toList)
      ↔ (Grouping.ofLanguage settings.language = .perModel →
          ∀ model ∈ models, '/' ∉ model.1.toList) := by
  have hdocument := Location.slash_notMem_name_ofPath settings.document
  cases Grouping.ofLanguage settings.language with
  | aggregated => simp [Models.subjects, hdocument]
  | perModel =>
      rw [Models.subjects, List.forall_mem_map]
      simp

/-- A run that generates files with bare names changes nothing outside of
the output directory but makes directories. -/
theorem contained_of_slash_free {ask : Answering OnTree}
    {request : Request} {settings : Settings} {t t₀ : FileTree}
    (htree : t.IsTree)
    (hsettings : StateT.run (Settings.complete ask request) t₀
      = (.ok settings, t))
    {files : List OutputFile}
    (hfiles : (settings.options request.extension).generateFrom t
      = .ok files)
    (hslash : ∀ file ∈ files, '/' ∉ file.name.toList) :
    t.ContainedIn settings.output
      (StateT.run (request.execute ask) t₀).2 := by
  have hname : ∀ file ∈ files, file.name ≠ "" :=
    fun _ => Options.name_ne_empty_of_generateFrom hfiles
  rw [execute_run hsettings, hfiles]
  exact OutputFile.preserves_writeAll hname hslash t
    (.refl htree settings.output)

/-- With an extension without slash, the names of generated files are
bare exactly if the names they are made from are. So a run that generates
files gives them bare names, and changes nothing outside of the output
directory but makes directories, exactly if the models share a file or
have bare names; a run that generates none changes nothing. -/
theorem bare_and_contained_iff (t : FileTree) :
    (∀ (options : Options) (models : Models) (files : List OutputFile),
      options.template.SlashFree →
      (StateT.run (options.document.load (m := OnTree)) t).1
        = .ok models →
      (StateT.run (options.generate (m := OnTree)) t).1 = .ok files →
      ((∀ file ∈ files, '/' ∉ file.name.toList)
        ↔ ∀ subject ∈
            models.subjects options.grouping options.document.name,
          '/' ∉ subject.1.toList))
    ∧ ∀ (ask : Answering OnTree) (request : Request)
        (settings : Settings) (t₀ : FileTree),
      t.IsTree →
      StateT.run (Settings.complete ask request) t₀
        = (.ok settings, t) →
      (∀ text, request.extension = some text → '/' ∉ text.toList) →
      (∀ (models : Models) (files : List OutputFile),
        (StateT.run ((settings.options request.extension).document.load
          (m := OnTree)) t).1 = .ok models →
        (StateT.run ((settings.options request.extension).generate
          (m := OnTree)) t).1 = .ok files →
        ((∀ file ∈ files, '/' ∉ file.name.toList)
            ∧ t.ContainedIn settings.output
              (StateT.run (request.execute ask) t₀).2
          ↔ (Grouping.ofLanguage settings.language = .perModel →
              ∀ model ∈ models, '/' ∉ model.1.toList)))
      ∧ ∀ e, (StateT.run ((settings.options request.extension).generate
            (m := OnTree)) t).1 = .error e →
          (StateT.run (request.execute ask) t₀).2 = t := by
  constructor
  · intro options models files hfree hload hfiles
    rw [Location.load_fst] at hload
    rw [Options.generate_fst] at hfiles
    exact Options.slash_free_iff hfree hload hfiles
  · intro ask request settings t₀ htree hsettings hextension
    rw [Options.generate_fst]
    constructor
    · intro models files hload hfiles
      rw [Location.load_fst] at hload
      have hnames := Options.slash_free_iff
        (slashFree_options hextension settings) hload hfiles
      rw [← slash_free_subjects_iff settings models]
      constructor
      · rintro ⟨hslash, -⟩
        exact hnames.1 hslash
      · intro hsubjects
        have hslash := hnames.2 hsubjects
        exact ⟨hslash,
          contained_of_slash_free htree hsettings hfiles hslash⟩
    · intro e he
      rw [execute_run hsettings, he]

/-- A tree with a document that declares one model, and a template. -/
def declaring (model : String) : FileTree where
  here := []
  entries :=
    [(["a.yml"], .file (.text
        ("components:\n schemas:\n  " ++ model ++ ": \x7b\x7d\n"))),
      (["page"], .file (.text "page"))]

/-- A request to put each model of the document on a page. -/
def pages : Request :=
  ⟨"a.yml", some "java", some "page", some "out", none⟩

def pageSettings : Settings := ⟨"a.yml", "java", "page", "out"⟩

/-- A model with a bare name has its page in the output directory, and
nothing else has changed. -/
theorem bare_and_contained_user :
    ∃ models files,
      (StateT.run ((pageSettings.options pages.extension).document.load
        (m := OnTree)) (declaring "User")).1 = .ok models
      ∧ (StateT.run ((pageSettings.options pages.extension).generate
        (m := OnTree)) (declaring "User")).1 = .ok files
      ∧ (∀ subject ∈ models.subjects .perModel "a",
          '/' ∉ subject.1.toList)
      ∧ (∀ file ∈ files, '/' ∉ file.name.toList)
      ∧ (declaring "User").ContainedIn "out"
          (StateT.run (pages.execute (m := OnTree) .suggested)
            (declaring "User")).2
      ∧ (StateT.run (pages.execute (m := OnTree) .suggested)
          (declaring "User")).2.entryAt? ["out", "User.txt"]
        = some (.file (.text "page")) := by
  have hloads : passes (fun models => models.map Prod.fst == ["User"])
      (StateT.run (Location.load (m := OnTree) ⟨"", "a"⟩)
        (declaring "User")).1 = true := by
    decide +kernel
  obtain ⟨models, hload, hmodels⟩ := exists_of_passes hloads
  have hbare : ∀ model ∈ models, '/' ∉ model.1.toList := by
    rw [← List.forall_mem_map (P := fun name : String =>
      '/' ∉ name.toList) (f := Prod.fst), beq_iff_eq.1 hmodels]
    decide
  have hgenerates : passes (fun _ => true)
      (StateT.run ((pageSettings.options pages.extension).generate
        (m := OnTree)) (declaring "User")).1 = true := by
    decide +kernel
  obtain ⟨files, hgenerate, -⟩ := exists_of_passes hgenerates
  have hlocation : (pageSettings.options pages.extension).document
      = ⟨"", "a"⟩ := by
    decide +kernel
  have hsettings : StateT.run
      (Settings.complete (m := OnTree) .suggested pages)
      (declaring "User") = (.ok pageSettings, declaring "User") := rfl
  have htree : (declaring "User").IsTree :=
    FileTree.isTree_of_forall (by decide)
  rw [← hlocation] at hload
  have hiff := ((bare_and_contained_iff (declaring "User")).2 .suggested
    pages pageSettings (declaring "User") htree hsettings nofun).1
    models files hload hgenerate
  obtain ⟨hslash, hcontained⟩ := hiff.2 fun _ => hbare
  have hnames := ((bare_and_contained_iff (declaring "User")).1
    (pageSettings.options pages.extension) models files nofun hload
    hgenerate).1 hslash
  rw [hlocation] at hnames
  exact ⟨models, files, hload, hgenerate, hnames, hslash, hcontained,
    by decide +kernel⟩

/-- A model that is named like a path upward is written where the path
leads: its file has a name with a slash, and it is not in the output
directory. -/
theorem not_bare_and_contained_upward :
    ∃ files,
      (StateT.run ((pageSettings.options none).generate (m := OnTree))
        (declaring "../up")).1 = .ok files
      ∧ ¬ (∀ file ∈ files, '/' ∉ file.name.toList)
      ∧ ¬ (declaring "../up").ContainedIn "out"
          (StateT.run (pages.execute (m := OnTree) .suggested)
            (declaring "../up")).2 := by
  have hgenerates : passes (fun files =>
      files == [⟨"../up.txt", "page"⟩])
      (StateT.run ((pageSettings.options none).generate (m := OnTree))
        (declaring "../up")).1 = true := by
    decide +kernel
  obtain ⟨files, hgenerate, hfiles⟩ := exists_of_passes hgenerates
  have hwritten : (StateT.run (pages.execute (m := OnTree) .suggested)
      (declaring "../up")).2.entryAt? ["up.txt"]
        = some (.file (.text "page")) := by
    decide +kernel
  have hreach : passes (fun a => a == ["out"])
      ((StateT.run (pages.execute (m := OnTree) .suggested)
        (declaring "../up")).2.reach "out") = true := by
    decide +kernel
  refine ⟨files, hgenerate, ?_, ?_⟩
  · rw [beq_iff_eq.1 hfiles]
    decide
  · intro hcontained
    have hbefore : (declaring "../up").entryAt? ["up.txt"] = none := by
      decide
    rcases hcontained.changes ["up.txt"] with hsame | ⟨-, hmade⟩ | hinside
    · rw [hwritten, hbefore] at hsame
      cases hsame
    · rw [hwritten] at hmade
      cases hmade
    · obtain ⟨a, name, ha, hname⟩ := hinside
      rw [ha] at hreach
      rw [beq_iff_eq.1 hreach] at hname
      exact absurd hname (by simp)

end Request

end SchemaPress
