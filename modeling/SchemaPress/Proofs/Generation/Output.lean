/-
Files from one template.

With a single template generation has no choice left: each subject gives
one file, named by the pattern and filled by the template, in the order
of the subjects (`ofModels_eq_ok`, `forall₂_of_ofModels`). What a file
holds is what the elements of the template yield over the data of its
subject (`render_eq_ok`).
-/
import Mathlib.Data.List.Forall2
import SchemaPress.Proofs.Generation.Data
import SchemaPress.Proofs.Outcome
import SchemaPress.Proofs.Template.Yield

namespace SchemaPress

-- ============================================================= rendering

namespace Template

/-- A text that may be missing is written as it is, or as nothing. -/
theorem shown_text (text : Option String) :
    shown ((text.map Json.string).getD .null) = text.getD "" := by
  cases text with
  | none => simp [shown]
  | some s => simp [shown]

/-- The setting of a template that is rendered over data. -/
def Setting.ofData (templates : Fields Template) (data : Json) : Setting :=
  { scope := .ofData data, templates, content := none, indent := "" }

/-- A template whose elements yield a text renders to it. -/
theorem render_eq_ok {templates : Fields Template} {template : Template}
    {data : Json} {text : String}
    (h : ∀ render, Rendering.Yields
      (renderAll render (.ofData templates data) template) text)
    (name : String) :
    Template.render name templates template data = .ok text := by
  obtain ⟨after, hafter⟩ :=
    h (renderWithin (inclusionLimit - 1)) (.start name)
  show Except.map Prod.fst ((renderAll (renderWithin (inclusionLimit - 1))
    (.ofData templates data) template).run (.start name)) = _
  rw [hafter]
  rfl

end Template

-- ================================================================= files

/-- Steps that all succeed give the list of their values. -/
theorem mapM_map_eq_ok {ε ι α β : Type} {step : α → Except ε β}
    {toItem : ι → α} {value : ι → β} {xs : List ι}
    (h : ∀ x ∈ xs, step (toItem x) = .ok (value x)) :
    (xs.map toItem).mapM step = .ok (xs.map value) := by
  induction xs with
  | nil => rfl
  | cons x rest ih =>
      rw [List.map_cons, List.mapM_cons, h x (List.mem_cons_self ..),
        ih fun y hy => h y (List.mem_cons_of_mem _ hy)]
      rfl

/-- What steps that succeed yield has what each step gives it. -/
theorem map_eq_of_mapM_eq_ok {ε α β γ : Type} {step : α → Except ε β}
    {view : β → γ} {expected : α → γ}
    (h : ∀ x y, step x = .ok y → view y = expected x) {xs : List α}
    {ys : List β} (hys : xs.mapM step = .ok ys) :
    ys.map view = xs.map expected := by
  induction xs generalizing ys with
  | nil =>
      cases hys
      rfl
  | cons x rest ih =>
      rw [List.mapM_cons] at hys
      obtain ⟨y, hx, hys⟩ := exists_of_bind_eq_ok hys
      obtain ⟨more, hrest, hys⟩ := exists_of_bind_eq_ok hys
      cases hys
      rw [List.map_cons, List.map_cons, h x y hx, ih hrest]

/-- Steps that all succeed give one value each, in order. -/
theorem forall₂_of_mapM_eq_ok {ε α β : Type} {step : α → Except ε β}
    {xs : List α} {ys : List β} (h : xs.mapM step = .ok ys) :
    List.Forall₂ (fun x y => step x = .ok y) xs ys := by
  induction xs generalizing ys with
  | nil =>
      cases h
      exact .nil
  | cons x rest ih =>
      rw [List.mapM_cons] at h
      obtain ⟨y, hx, h⟩ := exists_of_bind_eq_ok h
      obtain ⟨more, hrest, h⟩ := exists_of_bind_eq_ok h
      cases h
      exact .cons hx (ih hrest)

namespace OutputFile

/-- A template that renders over every subject gives one file for
each. -/
theorem ofModels_eq_ok {entry : NamedTemplate} {template : Template}
    (hread : Template.ofSource entry.source = .ok template)
    {models : Models} {document : String} {grouping : Grouping}
    {ι : Type} {items : List ι} {toSubject : ι → String × Json}
    (hsubjects : models.subjects grouping document
      = items.map toSubject)
    {content : ι → String}
    (hrender : ∀ x ∈ items, ∀ name templates,
      Template.render name templates template (toSubject x).2
        = .ok (content x)) :
    ofModels [entry] models document grouping
      = .ok (items.map fun x =>
          ⟨entry.fileName.nameFor (toSubject x).1, content x⟩) := by
  have hfiles : ∀ name templates,
      (items.map toSubject).mapM
          (ofSubject name templates template entry.fileName)
        = .ok (items.map fun x =>
            ⟨entry.fileName.nameFor (toSubject x).1, content x⟩) := by
    intro name templates
    refine mapM_map_eq_ok ?_
    intro x hx
    rw [ofSubject, hrender x hx name templates]
  rw [ofModels, hsubjects, ofTemplates, hread]
  show (do
    let files ← (items.map toSubject).mapM
      (ofSubject (templateName 0)
        (Fields.insert (templateName 0) template []) template
        entry.fileName)
    return files ++ (← ofTemplates _ 1 _ [])) = _
  rw [hfiles, ofTemplates]
  show Except.ok (_ ++ []) = _
  rw [List.append_nil]

/-- A file is named after its subject and holds what the template renders
to over the data. -/
theorem ofSubject_eq_ok {name : String} {templates : Fields Template}
    {template : Template} {fileName : NamePattern}
    {subject : String × Json} {file : OutputFile}
    (h : ofSubject name templates template fileName subject = .ok file) :
    file.name = fileName.nameFor subject.1
      ∧ Template.render name templates template subject.2
        = .ok file.content := by
  unfold ofSubject at h
  split at h
  · next content hcontent =>
      cases h
      exact ⟨rfl, hcontent⟩
  · cases h

/-- Files are named after the subjects, once for each template. -/
theorem names_ofTemplates {subjects : List (String × Json)}
    {position : Nat} {templates : Fields Template}
    {entries : List NamedTemplate} {files : List OutputFile}
    (h : ofTemplates subjects position templates entries = .ok files) :
    files.map OutputFile.name = entries.flatMap fun entry =>
      subjects.map fun subject => entry.fileName.nameFor subject.1 := by
  induction entries generalizing position templates files with
  | nil =>
      cases h
      rfl
  | cons entry rest ih =>
      rw [ofTemplates] at h
      obtain ⟨template, -, h⟩ := exists_of_bind_eq_ok h
      obtain ⟨first, hfirst, h⟩ := exists_of_bind_eq_ok h
      obtain ⟨more, hmore, h⟩ := exists_of_bind_eq_ok h
      cases h
      rw [List.map_append, List.flatMap_cons, ih hmore,
        map_eq_of_mapM_eq_ok (fun _ _ h => (ofSubject_eq_ok h).1) hfirst]

/-- With a file for each model and one template, every model gives one
file, in order: it is named after the model and holds what the template
renders to over the data of the model. -/
theorem forall₂_of_ofModels {entry : NamedTemplate} {models : Models}
    {document : String} {files : List OutputFile}
    (h : ofModels [entry] models document .perModel = .ok files) :
    ∃ template, Template.ofSource entry.source = .ok template
      ∧ List.Forall₂ (fun (model : String × Model) file =>
          file.name = entry.fileName.nameFor model.1
            ∧ Template.render (templateName 0)
                [(templateName 0, template)] template
                (model.2.data model.1)
              = .ok file.content) models files := by
  rw [ofModels, ofTemplates] at h
  obtain ⟨template, htemplate, h⟩ := exists_of_bind_eq_ok h
  obtain ⟨first, hfirst, h⟩ := exists_of_bind_eq_ok h
  obtain ⟨more, hmore, h⟩ := exists_of_bind_eq_ok h
  cases hmore
  cases h
  refine ⟨template, ?_, ?_⟩
  · cases hsource : Template.ofSource entry.source with
    | error e => rw [hsource] at htemplate; cases htemplate
    | ok read => rw [hsource] at htemplate; cases htemplate; rfl
  · rw [List.append_nil]
    have hpairs := forall₂_of_mapM_eq_ok hfirst
    rw [Models.subjects, List.forall₂_map_left_iff] at hpairs
    exact hpairs.imp fun _ _ => ofSubject_eq_ok

end OutputFile

end SchemaPress
