/-
One file for each model.

With a file for each model nothing of a model is lost to another: a run
that succeeds reports as many paths as there are models, all of them
different, and behind each path there is at the end what the template
makes of that model (`Request.execute_perModel`).

Three things keep files apart. The names of models are distinct however
the document writes them, since keys are made text before models are
read. Distinct names make distinct file names, whatever dots or
placeholders are in them or in the extension
(`NamePattern.nameFor_injective`). And distinct file names lead to
distinct places, as long as they have no slash and lead to files
(`FileTree.locate_join_inj`); a name that leads to a directory, as the
two dots do, is refused, and then the run does not succeed.
-/
import Mathlib.Data.List.Nodup
import SchemaPress.Proofs.CommandLine.Effect
import SchemaPress.Proofs.Model.Declaration

namespace SchemaPress

namespace OutputFile

variable {directory : String} {made : List Address}
  {files : List OutputFile} {before after : FileTree}

/-- Written files with different bare names lead apart. -/
theorem pairwise_apart
    (hwritten : before.Written directory made
      (files.map (target directory)) after)
    (hbare : ∀ file ∈ files, file.name ≠ "" ∧ '/' ∉ file.name.toList)
    (hdistinct : (files.map OutputFile.name).Nodup) :
    files.Pairwise fun file later => ∀ a,
      after.locate (file.path directory) = .ok a →
      after.locate (later.path directory) ≠ .ok a := by
  refine (List.pairwise_map.1 hdistinct).imp_of_mem ?_
  intro file later hfile hlater hne a ha hsame
  obtain ⟨b, content, hb, hcontent⟩ := hwritten.is_file
    (file.target directory) (List.mem_map_of_mem hfile)
  -- a file stands there, so neither of the names is one of the dots
  have hnot : after.entryAt? b ≠ some .directory := by simp [hcontent]
  have hab : b = a := Except.ok.inj (hb.symm.trans ha)
  rw [hab] at hnot
  exact hne (FileTree.locate_join_inj (hbare file hfile)
    (hbare later hlater) hnot ha hsame)

/-- A file that leads apart from all others can be read afterwards as it
was written. -/
theorem read_of_pairwise
    (hwritten : before.Written directory made
      (files.map (target directory)) after)
    (hbare : ∀ file ∈ files, file.name ≠ "" ∧ '/' ∉ file.name.toList)
    (hapart : files.Pairwise fun file later => ∀ a,
      after.locate (file.path directory) = .ok a →
      after.locate (later.path directory) ≠ .ok a)
    {file : OutputFile} (hfile : file ∈ files) :
    after.read (file.path directory) = .ok file.content := by
  obtain ⟨a, ha, hentry⟩ := hwritten.holds_of_pairwise
    (List.pairwise_map.2 hapart) (List.mem_map_of_mem hfile)
  obtain ⟨hname, hslash⟩ := hbare file hfile
  exact FileTree.read_of_locate ha hentry
    (FileTree.asksForDirectory_join hname hslash directory)

end OutputFile

theorem Location.names_nodup_of_loadFrom {t : FileTree}
    {location : Location} {models : Models}
    (h : location.loadFrom t = .ok models) :
    (Fields.names models).Nodup := by
  obtain ⟨text, htext⟩ := exists_text_of_loadFrom h
  unfold Models.ofText at htext
  split at htext
  · exact Models.names_nodup_of_ofDocument htext
  · cases htext

/-- What options make of a model: the text that the template they select
renders to over the data of the model. -/
def Options.Renders (options : Options) (t : FileTree)
    (model : String × Model) (text : String) : Prop :=
  ∃ entry template,
    (StateT.run (options.template.select (m := OnTree) options.language)
      t).1 = .ok [entry]
    ∧ Template.ofSource entry.source = .ok template
    ∧ Template.render (OutputFile.templateName 0)
        [(OutputFile.templateName 0, template)] template
        (model.2.data model.1) = .ok text

namespace Options

variable {t : FileTree} {options : Options} {models : Models}
  {files : List OutputFile}

/-- With a file for each model, every model gives one file, which has
what is made of the model. -/
theorem forall₂_of_generateFrom (hgrouping : options.grouping = .perModel)
    (hload : options.document.loadFrom t = .ok models)
    (hfiles : options.generateFrom t = .ok files) :
    List.Forall₂ (fun model file => options.Renders t model file.content)
      models files := by
  obtain ⟨loaded, hloaded, hfiles⟩ := exists_of_bind_eq_ok hfiles
  rw [hload] at hloaded
  cases hloaded
  obtain ⟨entries, hselect, hfiles⟩ := exists_of_bind_eq_ok hfiles
  obtain ⟨extension, source, rfl, -⟩ :=
    TemplateOrigin.exists_of_selectFrom hselect
  rw [hgrouping] at hfiles
  obtain ⟨template, htemplate, hpairs⟩ :=
    OutputFile.forall₂_of_ofModels hfiles
  refine hpairs.imp ?_
  rintro model file ⟨-, hrender⟩
  refine ⟨_, template, ?_, htemplate, hrender⟩
  rw [TemplateOrigin.select_run, hselect]

/-- With a file for each model, all files have different names. -/
theorem names_nodup_of_generateFrom
    (hgrouping : options.grouping = .perModel)
    (hload : options.document.loadFrom t = .ok models)
    (hfiles : options.generateFrom t = .ok files) :
    (files.map OutputFile.name).Nodup := by
  obtain ⟨extension, -, hnames⟩ := exists_of_generateFrom hload hfiles
  have hdistinct := (Location.names_nodup_of_loadFrom hload).map
    (NamePattern.nameFor_injective extension)
  rw [hnames, hgrouping, Models.subjects, List.map_map]
  rwa [Fields.names, List.map_map] at hdistinct

/-- With a file for each model, and no slash in their names or in the
extension, all files have bare names. -/
theorem bare_of_generateFrom (hgrouping : options.grouping = .perModel)
    (hfree : options.template.SlashFree)
    (hload : options.document.loadFrom t = .ok models)
    (hfiles : options.generateFrom t = .ok files)
    (hslash : ∀ model ∈ models, '/' ∉ model.1.toList) :
    ∀ file ∈ files, file.name ≠ "" ∧ '/' ∉ file.name.toList := by
  have hsubjects := slash_free_iff hfree hload hfiles
  rw [hgrouping, Models.subjects, List.forall_mem_map] at hsubjects
  intro file hfile
  exact ⟨name_ne_empty_of_generateFrom hfiles hfile,
    hsubjects.2 hslash file hfile⟩

end Options

namespace Request

variable {ask : Answering OnTree} {request : Request}
  {settings : Settings} {t₀ t after : FileTree} {report : Report}

/-- A run that succeeds has written all files and reports their paths. -/
theorem exists_written_of_execute
    (hsettings : StateT.run (Settings.complete ask request) t₀
      = (.ok settings, t))
    (hrun : StateT.run (request.execute ask) t₀ = (.ok report, after)) :
    ∃ files made,
      (settings.options request.extension).generateFrom t = .ok files
      ∧ report.written = files.map (OutputFile.path settings.output)
      ∧ t.Written settings.output made
          (files.map (OutputFile.target settings.output)) after := by
  cases hfiles : (settings.options request.extension).generateFrom t with
  | error e =>
      rw [execute_ungenerated hsettings hfiles] at hrun
      cases hrun
  | ok files =>
      obtain ⟨made, k, outcome, left, hwrite, hwritten, hend⟩ :=
        OutputFile.exists_written_of_writeAll t settings.output files
      rw [execute_generated hsettings hfiles, hwrite] at hrun
      cases hend with
      | all =>
          cases hrun
          rw [List.take_length] at hwritten
          exact ⟨files, made, rfl, rfl, hwritten⟩
      | unmade => cases hrun
      | refused => cases hrun

/-- A run that gives each model a file of its own, none of them named
with a slash, and succeeds reports as many paths as there are models. The
paths differ and lead to different places, and behind each of them there
is what the template makes of its model. -/
theorem execute_perModel {models : Models}
    (hsettings : StateT.run (Settings.complete ask request) t₀
      = (.ok settings, t))
    (hgrouping : Grouping.ofLanguage settings.language = .perModel)
    (hload : (StateT.run ((settings.options
      request.extension).document.load (m := OnTree)) t).1 = .ok models)
    (hrun : StateT.run (request.execute ask) t₀ = (.ok report, after))
    (hextension : ∀ text, request.extension = some text →
      '/' ∉ text.toList)
    (hslash : ∀ model ∈ models, '/' ∉ model.1.toList) :
    report.written.length = models.length
      ∧ report.written.Nodup
      ∧ (report.written.map after.locate).Nodup
      ∧ List.Forall₂ (fun model path => ∃ text,
          (settings.options request.extension).Renders t model text
            ∧ after.read path = .ok text) models report.written := by
  rw [Location.load_fst] at hload
  obtain ⟨files, made, hfiles, hreport, hwritten⟩ :=
    exists_written_of_execute hsettings hrun
  have hbare := Options.bare_of_generateFrom hgrouping
    (slashFree_options hextension settings) hload hfiles hslash
  have hapart := OutputFile.pairwise_apart hwritten hbare
    (Options.names_nodup_of_generateFrom hgrouping hload hfiles)
  have hrenders := Options.forall₂_of_generateFrom hgrouping hload hfiles
  have hplaces : (report.written.map after.locate).Nodup := by
    rw [hreport, List.map_map]
    refine List.pairwise_map.2 (hapart.imp_of_mem ?_)
    intro file later hfile _ hne hsame
    obtain ⟨a, -, ha, -⟩ := hwritten.is_file
      (file.target settings.output) (List.mem_map_of_mem hfile)
    exact hne a ha (hsame.symm.trans ha)
  refine ⟨?_, hplaces.of_map _, hplaces, ?_⟩
  · rw [hreport, List.length_map, hrenders.length_eq]
  · rw [hreport, List.forall₂_map_right_iff]
    refine List.forall₂_iff_zip.2 ⟨hrenders.length_eq, ?_⟩
    intro model file hpair
    exact ⟨file.content, (List.forall₂_iff_zip.1 hrenders).2 hpair,
      OutputFile.read_of_pairwise hwritten hbare hapart
        (List.of_mem_zip hpair).2⟩

/-- A tree with a document whose models have names that could be taken
for each other's: with a dot, without a letter, and like the placeholder.
The template puts the name of the model on a page. -/
def confusable : FileTree :=
  declaringAll ["a", "a.a", "\"\"", "\"\x7b\x7b@key\x7d\x7d\""]
    "\x7b\x7bmodelName\x7d\x7d"

/-- A request for pages with an extension that repeats the name behind
some dots. -/
def repeatingPages : Request :=
  { pages with extension := some "..\x7b\x7b@key\x7d\x7dx" }

/-- Confusable models keep their own pages, also when the extension
repeats their names. -/
theorem execute_perModel_confusable :
    ∃ models report after,
      Fields.names models = ["a", "a.a", "", "\x7b\x7b@key\x7d\x7d"]
      ∧ StateT.run (repeatingPages.execute (m := OnTree) .suggested)
          confusable = (.ok report, after)
      ∧ report.written = ["out/a.ax", "out/a.a.a.ax", "out/.x",
          "out/\x7b\x7b@key\x7d\x7d.\x7b\x7b@key\x7d\x7dx"]
      ∧ report.written.length = models.length
      ∧ report.written.Nodup
      ∧ (report.written.map after.locate).Nodup
      ∧ List.Forall₂ (fun model path => ∃ text,
          (pageSettings.options repeatingPages.extension).Renders
              confusable model text
            ∧ after.read path = .ok text) models report.written := by
  have hloads : passes (fun models => Fields.names models
      == ["a", "a.a", "", "\x7b\x7b@key\x7d\x7d"])
      (StateT.run ((pageSettings.options
        repeatingPages.extension).document.load (m := OnTree))
        confusable).1 = true := by
    decide +kernel
  obtain ⟨models, hload, hmodels⟩ := exists_of_passes hloads
  have hruns : passes (fun report => report.written
      == ["out/a.ax", "out/a.a.a.ax", "out/.x",
        "out/\x7b\x7b@key\x7d\x7d.\x7b\x7b@key\x7d\x7dx"])
      (StateT.run (repeatingPages.execute (m := OnTree) .suggested)
        confusable).1 = true := by
    decide +kernel
  obtain ⟨report, after, hrun, hwritten⟩ := exists_of_passes_fst hruns
  have hsettings : StateT.run
      (Settings.complete (m := OnTree) .suggested repeatingPages)
      confusable = (.ok pageSettings, confusable) := rfl
  have hslash : ∀ model ∈ models, '/' ∉ model.1.toList := by
    rw [← List.forall_mem_map (P := fun name : String =>
      '/' ∉ name.toList) (f := Prod.fst), ← Fields.names,
      beq_iff_eq.1 hmodels]
    decide
  exact ⟨models, report, after, beq_iff_eq.1 hmodels, hrun,
    beq_iff_eq.1 hwritten,
    execute_perModel hsettings (by decide) hload hrun
      (by rintro text ⟨⟩; decide) hslash⟩

end Request

end SchemaPress
