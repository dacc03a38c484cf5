/-
Output taken apart.

Templates that include nothing know nothing of each other, so a list of
them gives what each gives alone, one after the other
(`ofTemplates_eq_flatten`). And a template with a file for each model
gives what it gives of each model alone, once it has been read
(`ofModels_perModel`). Both are equations between outcomes: steps in a
row fail with the first failure among them, and then there is no file.

Put together, every file of a run has a template and perhaps a model that
it comes from, and it is the one file that these give on their own
(`forall₂_product_of_ofModels`, `forall₂_of_ofModels_aggregated`).

It takes templates without inclusions. Each template goes by its
position, and those before it can be included by that name; alone, it
would be the first, and there would be nothing else to include.
-/
import Mathlib.Data.List.ProdSigma
import SchemaPress.Proofs.Generation.Output
import SchemaPress.Proofs.Template.Independence

namespace SchemaPress

/-- If the source is a template at all, it includes nothing. -/
def NamedTemplate.InclusionFree (entry : NamedTemplate) : Prop :=
  ∀ template, Template.ofSource entry.source = .ok template →
    template.inclusionFree = true

namespace OutputFile

variable {entry : NamedTemplate} {subjects : List (String × Json)}

-- ============================================================== templates

/-- What a template makes of the subjects, once it has been read. -/
theorem ofTemplates_singleton (entry : NamedTemplate)
    (subjects : List (String × Json)) :
    ofTemplates subjects 0 [] [entry] = (do
      let template ← (Template.ofSource entry.source).mapError
        GenerationError.compilation
      subjects.mapM (ofSubject (templateName 0)
        [(templateName 0, template)] template entry.fileName)) := by
  rw [ofTemplates]
  cases (Template.ofSource entry.source).mapError
      GenerationError.compilation with
  | error e => rfl
  | ok template =>
      show (subjects.mapM _ >>= fun files =>
        Except.ok (files ++ [])) = _
      simp only [List.append_nil]
      exact bind_pure _

/-- What a template without inclusions makes of a subject has nothing to
do with its position or with other templates. -/
theorem ofSubject_eq_of_inclusionFree {template : Template}
    (hfree : template.inclusionFree = true) (name name' : String)
    (templates templates' : Fields Template) (fileName : NamePattern) :
    ofSubject name templates template fileName
      = ofSubject name' templates' template fileName := by
  funext subject
  rw [ofSubject, ofSubject, Template.render_eq_of_inclusionFree hfree
    name name' templates templates']

/-- Templates without inclusions give what each of them gives alone, in
order, wherever in a list they stand. -/
theorem ofTemplates_eq_flatten {entries : List NamedTemplate}
    (hfree : ∀ entry ∈ entries, entry.InclusionFree) (position : Nat)
    (templates : Fields Template) :
    ofTemplates subjects position templates entries
      = (entries.mapM fun entry =>
          ofTemplates subjects 0 [] [entry]).map List.flatten := by
  induction entries generalizing position templates with
  | nil => rfl
  | cons entry rest ih =>
      rw [List.mapM_cons, ofTemplates_singleton, ofTemplates]
      cases hread : Template.ofSource entry.source with
      | error fault => rfl
      | ok template =>
          have hentry : template.inclusionFree = true :=
            hfree entry (List.mem_cons_self ..) template hread
          have hrest := ih fun other hother =>
            hfree other (List.mem_cons_of_mem _ hother)
          show (subjects.mapM (ofSubject (templateName position)
              (Fields.insert (templateName position) template templates)
              template entry.fileName)
            >>= fun files => ofTemplates subjects (position + 1)
              (Fields.insert (templateName position) template templates)
              rest >>= fun more => .ok (files ++ more)) = _
          rw [hrest, ofSubject_eq_of_inclusionFree hentry
            (templateName position) (templateName 0) _
            [(templateName 0, template)]]
          show _ = Except.map List.flatten (subjects.mapM (ofSubject
              (templateName 0) [(templateName 0, template)] template
              entry.fileName)
            >>= fun files => rest.mapM _ >>= fun more =>
              .ok (files :: more))
          cases subjects.mapM (ofSubject (templateName 0)
              [(templateName 0, template)] template entry.fileName) with
          | error e => rfl
          | ok files =>
              cases rest.mapM fun other =>
                  ofTemplates subjects 0 [] [other] with
              | error e => rfl
              | ok more => rfl

-- ================================================================= models

/-- Steps one by one are the steps in a row. -/
theorem mapM_singletons {ε α β : Type} (step : α → Except ε β)
    (xs : List α) :
    (xs.mapM fun x => [x].mapM step).map List.flatten = xs.mapM step := by
  induction xs with
  | nil => rfl
  | cons x rest ih =>
      have hone : [x].mapM step = (step x).map fun y => [y] := by
        rw [List.mapM_cons]
        cases step x with
        | error e => rfl
        | ok y => rfl
      rw [List.mapM_cons, hone, List.mapM_cons, ← ih]
      cases step x with
      | error e => rfl
      | ok y =>
          cases rest.mapM fun x => [x].mapM step with
          | error e => rfl
          | ok ys => rfl

/-- With a file for each model, a template that can be read gives what it
gives of each model alone, in order. -/
theorem ofModels_perModel (entry : NamedTemplate) (models : Models)
    (document : String) :
    ofModels [entry] models document .perModel
      = ((Template.ofSource entry.source).mapError
          GenerationError.compilation >>= fun _ =>
        (models.mapM fun model =>
          ofModels [entry] [model] document .perModel).map
          List.flatten) := by
  simp only [ofModels, ofTemplates_singleton]
  cases (Template.ofSource entry.source).mapError
      GenerationError.compilation with
  | error e => rfl
  | ok template =>
      let toFile := ofSubject (templateName 0) [(templateName 0, template)]
        template entry.fileName
      have hsteps : ∀ models : Models,
          (models.subjects .perModel document).mapM toFile
            = models.mapM fun model =>
                toFile (model.1, model.2.data model.1) :=
        fun models => List.mapM_map
      show (models.subjects .perModel document).mapM toFile
        = Except.map List.flatten (models.mapM fun model =>
            (Models.subjects .perModel document [model]).mapM toFile)
      simp only [hsteps]
      exact (mapM_singletons _ models).symm

-- ================================================================== files

/-- With one file for all, a template gives one file. -/
theorem exists_of_ofModels_aggregated {models : Models}
    {document : String} {files : List OutputFile}
    (h : ofModels [entry] models document .aggregated = .ok files) :
    ∃ file, files = [file] := by
  rw [ofModels, ofTemplates_singleton] at h
  obtain ⟨template, -, h⟩ := exists_of_bind_eq_ok h
  have hlength := (forall₂_of_mapM_eq_ok h).length_eq
  exact List.length_eq_one_iff.1 hlength.symm

/-- With one file for all, each template gives the file that it gives
alone. -/
theorem forall₂_of_ofModels_aggregated {entries : List NamedTemplate}
    (hfree : ∀ entry ∈ entries, entry.InclusionFree) {models : Models}
    {document : String} {files : List OutputFile}
    (h : ofModels entries models document .aggregated = .ok files) :
    List.Forall₂ (fun entry file =>
      ofModels [entry] models document .aggregated = .ok [file])
      entries files := by
  rw [ofModels, ofTemplates_eq_flatten hfree] at h
  cases hparts : entries.mapM fun entry =>
      ofTemplates (models.subjects .aggregated document) 0 [] [entry] with
  | error e =>
      rw [hparts] at h
      cases h
  | ok parts =>
      rw [hparts] at h
      cases h
      have hpairs := forall₂_of_mapM_eq_ok hparts
      clear hparts
      induction hpairs with
      | nil => exact .nil
      | @cons entry part rest more hpart _ ih =>
          obtain ⟨file, rfl⟩ := exists_of_ofModels_aggregated hpart
          exact .cons hpart
            (ih fun other hother =>
              hfree other (List.mem_cons_of_mem _ hother))

/-- With a file for each model, a template gives of each model the file
that it gives of it alone. -/
theorem forall₂_of_ofModels_perModel {models : Models} {document : String}
    {files : List OutputFile}
    (h : ofModels [entry] models document .perModel = .ok files) :
    List.Forall₂ (fun model file =>
      ofModels [entry] [model] document .perModel = .ok [file])
      models files := by
  obtain ⟨template, hread, hpairs⟩ := forall₂_of_ofModels h
  refine hpairs.imp ?_
  rintro model ⟨name, content⟩ ⟨rfl, hrender⟩
  rw [ofModels, ofTemplates_singleton, hread]
  show [(model.1, model.2.data model.1)].mapM (ofSubject (templateName 0)
    [(templateName 0, template)] template entry.fileName) = _
  rw [List.mapM_cons, ofSubject, hrender]
  rfl

/-- With a file for each model, there is one for each template and each
model, in the order of the templates first, and it is the one that these
two give alone. -/
theorem forall₂_product_of_ofModels {entries : List NamedTemplate}
    (hfree : ∀ entry ∈ entries, entry.InclusionFree) {models : Models}
    {document : String} {files : List OutputFile}
    (h : ofModels entries models document .perModel = .ok files) :
    List.Forall₂ (fun source file =>
      ofModels [source.1] [source.2] document .perModel = .ok [file])
      (entries ×ˢ models) files := by
  rw [ofModels, ofTemplates_eq_flatten hfree] at h
  cases hparts : entries.mapM fun entry =>
      ofTemplates (models.subjects .perModel document) 0 [] [entry] with
  | error e =>
      rw [hparts] at h
      cases h
  | ok parts =>
      rw [hparts] at h
      cases h
      have hpairs := forall₂_of_mapM_eq_ok hparts
      clear hparts
      induction hpairs with
      | nil => exact .nil
      | @cons entry part rest more hpart _ ih =>
          rw [List.product_cons, List.flatten_cons]
          refine List.rel_append ?_
            (ih fun other hother =>
              hfree other (List.mem_cons_of_mem _ hother))
          rw [List.forall₂_map_left_iff]
          exact forall₂_of_ofModels_perModel hpart

/-- Templates that include nothing give what each of them gives alone, in
order, or fail as the first of them that does. With a file for each model
a template has to be one, also if there are no models, and then gives
what it gives of each model alone, in order, or fails as with the first
that it fails with. So if all goes well there is one file for each
template and each model, or one for each template, and it depends on
these alone. -/
theorem ofModels_decomposed (models : Models) (document : String) :
    (∀ (entries : List NamedTemplate) (grouping : Grouping),
      (∀ entry ∈ entries, entry.InclusionFree) →
      ofModels entries models document grouping
        = (entries.mapM fun entry =>
            ofModels [entry] models document grouping).map List.flatten)
    ∧ (∀ entry : NamedTemplate,
      ofModels [entry] models document .perModel
        = ((Template.ofSource entry.source).mapError
            GenerationError.compilation >>= fun _ =>
          (models.mapM fun model =>
            ofModels [entry] [model] document .perModel).map
            List.flatten))
    ∧ ∀ (entries : List NamedTemplate) (files : List OutputFile),
      (∀ entry ∈ entries, entry.InclusionFree) →
      (ofModels entries models document .perModel = .ok files →
        files.length = entries.length * models.length
        ∧ List.Forall₂ (fun source file =>
            ofModels [source.1] [source.2] document .perModel
              = .ok [file])
            (entries ×ˢ models) files)
      ∧ (ofModels entries models document .aggregated = .ok files →
        files.length = entries.length
        ∧ List.Forall₂ (fun entry file =>
            ofModels [entry] models document .aggregated = .ok [file])
            entries files) := by
  refine ⟨?_, fun entry => ofModels_perModel entry models document, ?_⟩
  · intro entries grouping hfree
    exact ofTemplates_eq_flatten hfree 0 []
  · intro entries files hfree
    constructor
    · intro h
      have hpairs := forall₂_product_of_ofModels hfree h
      refine ⟨?_, hpairs⟩
      rw [← hpairs.length_eq, List.length_product]
    · intro h
      have hpairs := forall₂_of_ofModels_aggregated hfree h
      exact ⟨hpairs.length_eq.symm, hpairs⟩

/-- Two templates without inclusions, one of which has a template inside
that it does not use. -/
def sheets : List NamedTemplate :=
  [⟨.ofExtension "txt",
      "\x7b\x7b#*inline \"a\"\x7d\x7dx\x7b\x7b/inline\x7d\x7d"
        ++ "\x7b\x7bmodelName\x7d\x7d"⟩,
    ⟨.ofExtension "md", "# \x7b\x7bkey\x7d\x7d"⟩]

/-- Two templates and two models give four files, those of the first
template first. -/
theorem ofModels_decomposed_sheets :
    (∀ entry ∈ sheets, entry.InclusionFree)
    ∧ ofModels sheets [("A", .empty), ("B", .empty)] "a" .perModel
      = .ok [⟨"A.txt", "A"⟩, ⟨"B.txt", "B"⟩, ⟨"A.md", "# A"⟩,
          ⟨"B.md", "# B"⟩]
    ∧ List.Forall₂ (fun source file =>
        ofModels [source.1] [source.2] "a" .perModel = .ok [file])
        (sheets ×ˢ [("A", .empty), ("B", .empty)])
        [⟨"A.txt", "A"⟩, ⟨"B.txt", "B"⟩, ⟨"A.md", "# A"⟩,
          ⟨"B.md", "# B"⟩] := by
  have hreads : ∀ entry ∈ sheets, passes Template.inclusionFree
      (Template.ofSource entry.source) = true := by
    decide +kernel
  have hfree : ∀ entry ∈ sheets, entry.InclusionFree := by
    intro entry hentry template hread
    have hsheet := hreads entry hentry
    rw [hread] at hsheet
    exact hsheet
  have hfiles : ofModels sheets [("A", .empty), ("B", .empty)] "a"
      .perModel = .ok [⟨"A.txt", "A"⟩, ⟨"B.txt", "B"⟩, ⟨"A.md", "# A"⟩,
        ⟨"B.md", "# B"⟩] := by
    decide +kernel
  exact ⟨hfree, hfiles, (((ofModels_decomposed [("A", .empty),
    ("B", .empty)] "a").2.2 sheets _ hfree).1 hfiles).2⟩

end OutputFile

end SchemaPress
