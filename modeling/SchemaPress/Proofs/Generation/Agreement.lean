/-
One file for all models, or a file for each: for a form it is the same
text.

A form can be rendered over each model by itself, or it can be repeated
for each model of a list and rendered once. What stands at the root of the
data differs then, and so does the way to every field. But both times the
form is rendered in a scope over the data of a model, and that alone
decides what it yields (`Form.yields`): a text that can be written down
from the model (`Form.text`), whatever extensions the model has. So the
files of the models, one after the other, are the file for all of them
(`OutputFile.ofModels_repeated_agrees`).
-/
import SchemaPress.Proofs.Generation.BuiltIn
import SchemaPress.Proofs.Template.Form

namespace SchemaPress

namespace Template

-- ==================================================================== text

/-- What a place says of a property. -/
def PropertyPlace.text (property : String × Schema) :
    PropertyPlace → String
  | .key => property.1
  | .description => property.2.description.getD ""
  | .type language => language.typeOfSchema property.2

/-- What a field says of a model. -/
def ModelField.text (model : String × Model) : ModelField → String
  | .title => model.2.title.getD ""
  | .description => model.2.description.getD ""
  | .key | .modelName => model.1

/-- What a place says of a model. -/
def ModelPlace.text (model : String × Model) : ModelPlace → String
  | .field f => f.text model
  | .properties body =>
      String.join (model.2.properties.map fun property =>
        Item.fill (PropertyPlace.text property) body)

/-- A form filled in for a model. -/
def Form.text (form : Form) (model : String × Model) : String :=
  Item.fill (ModelPlace.text model) form

-- =============================================================== rendering

open Rendering

variable {render : Setting → Template → Rendering String} {s : Setting}

theorem PlainText.yields (hindent : s.indent = "") (t : PlainText)
    {rest : Template} {more : String}
    (hmore : Yields (renderAll render s rest) more) :
    Yields (renderAll render s (t.elements ++ rest))
      (String.ofList t.chars ++ more) := by
  unfold elements
  cases hempty : t.chars.isEmpty with
  | true =>
      rw [List.isEmpty_iff.1 hempty, String.ofList_nil, String.empty_append]
      exact hmore
  | false =>
      exact renderAll_yields_append (text_yields hindent _) hmore

/-- Texts and places yield what they are filled with, if each place
does. -/
theorem Item.yields {α : Type} (hindent : s.indent = "")
    {element : α → Element} {value : α → String}
    (h : ∀ p, Yields ((element p).render render s) (value p))
    (items : List (Item α)) :
    Yields (renderAll render s ((Spaced.ofItems items).elements element))
      (Item.fill value items) := by
  rw [← String.ofList_toList (s := Item.fill value items),
    ← Spaced.flat_ofItems]
  obtain ⟨t, rest⟩ := Spaced.ofItems items
  unfold Spaced.elements
  induction rest generalizing t with
  | nil =>
      rw [Spaced.flat, Spaced.flat, List.flatMap_nil, List.flatMap_nil,
        String.ofList_append]
      exact t.yields hindent renderAll_yields_nil
  | cons first rest ih =>
      obtain ⟨p, u⟩ := first
      rw [Spaced.flat_cons, Spaced.flat_cons, String.ofList_append,
        String.ofList_append, String.ofList_toList]
      exact t.yields hindent (renderAll_yields_append (h p) (ih u))

theorem PropertyPlace.yields (hindent : s.indent = "") {name : String}
    {schema : Schema} (hproper : schema.Proper)
    (hover : s.scope.Over schema.toJson)
    (hkey : s.scope.local? 0 "key" = some (.string name))
    (p : PropertyPlace) :
    Yields (p.element.render render s) (p.text (name, schema)) := by
  cases p with
  | key => exact key_yields hindent hkey
  | description =>
      exact Language.description_yields hindent hproper hover
  | type language =>
      exact Language.typeSlot_yields language hproper hover

theorem ModelField.yields (hindent : s.indent = "") {name : String}
    {m : Model} (hproper : m.Proper) (hover : s.scope.Over (m.data name))
    (f : ModelField) :
    Yields ((Language.slot f.name f.name).render render s)
      (f.text (name, m)) := by
  cases f with
  | title =>
      exact Language.modelTitle_yields hindent hover _ (by decide) hproper
  | description =>
      exact Language.modelDescription_yields hindent hover _ (by decide)
        hproper
  | key => exact Language.modelKey_yields hindent hover _ (by decide)
  | modelName =>
      exact Language.modelName_yields hindent hover _ (by decide)

theorem ModelPlace.yields (hindent : s.indent = "") {name : String}
    {m : Model} (hproper : m.Proper) (hover : s.scope.Over (m.data name))
    (p : ModelPlace) :
    Yields (p.element.render render s) (p.text (name, m)) := by
  cases p with
  | field f => exact f.yields hindent hproper hover
  | properties body =>
      refine Language.eachProperty_yields hproper hover "properties" false
        ?_
      intro property hproperty scope hscope hkey
      have hplace : ∀ p : PropertyPlace, Yields
          (p.element.render render { s with scope }) (p.text property) :=
        PropertyPlace.yields (s := { s with scope }) hindent
          (hproper.properties_proper property hproperty) hscope hkey
      exact Item.yields (s := { s with scope }) hindent hplace body

/-- Over the data of a model a form yields what it is filled in to,
wherever these data stand. -/
theorem Form.yields (hindent : s.indent = "") {name : String} {m : Model}
    (hproper : m.Proper) (hover : s.scope.Over (m.data name))
    (form : Form) :
    Yields (renderAll render s form.elements) (form.text (name, m)) :=
  Item.yields hindent (ModelPlace.yields hindent hproper hover) form

/-- Repeated, a form yields what it is filled in to for each model, in
order. -/
theorem Form.repeated_yields (hindent : s.indent = "") {models : Models}
    (hproper : ∀ entry ∈ models, entry.2.Proper)
    (hover : s.scope.Over models.data) (form : Form) :
    Yields (renderAll render s [Loop.models.element form.elements])
      (String.join (models.map form.text)) := by
  rw [← String.append_empty (s := String.join _)]
  refine renderAll_yields_append ?_ renderAll_yields_nil
  refine Language.eachModel_yields hover false ?_
  intro entry hentry scope hscope
  exact Form.yields (s := { s with scope }) hindent
    (hproper entry hentry) hscope form

end Template

-- ================================================================== files

namespace OutputFile

open Template

/-- With a file for each model, a form gives the files that it is filled
in to. -/
theorem ofModels_form {models : Models}
    (hproper : ∀ entry ∈ models, entry.2.Proper) (form : Form)
    (fileName : NamePattern) (document : String) :
    ofModels [⟨fileName, form.source⟩] models document .perModel
      = .ok (models.map fun model =>
          ⟨fileName.nameFor model.1, form.text model⟩) := by
  have hrender : ∀ model ∈ models, ∀ name templates,
      Template.render name templates form.elements
        (model.2.data model.1) = .ok (form.text model) := by
    intro model hmodel name templates
    refine render_eq_ok ?_ name
    intro render
    exact form.yields rfl (hproper model hmodel) (Scope.ofData_over _)
  have hsubjects : models.subjects .perModel document
      = models.map fun model => (model.1, model.2.data model.1) :=
    rfl
  refine ofModels_eq_ok ?_ hsubjects hrender
  exact form.ofSource_source

/-- With one file for all models, a repeated form gives what it is filled
in to for each of them, in order. -/
theorem ofModels_repeated {models : Models}
    (hproper : ∀ entry ∈ models, entry.2.Proper) (form : Form)
    (fileName : NamePattern) (document : String) :
    ofModels [⟨fileName, form.repeated⟩] models document .aggregated
      = .ok [⟨fileName.nameFor document,
          String.join (models.map form.text)⟩] := by
  have hrender : ∀ name ∈ [document], ∀ position templates,
      Template.render position templates [Loop.models.element form.elements]
        models.data = .ok (String.join (models.map form.text)) := by
    intro _ _ position templates
    refine render_eq_ok ?_ position
    intro render
    exact form.repeated_yields rfl hproper (Scope.ofData_over _)
  have hsubjects : models.subjects .aggregated document
      = [document].map fun name => (name, models.data) :=
    rfl
  refine ofModels_eq_ok ?_ hsubjects hrender
  exact form.ofSource_repeated

/-- For the models of a document, every form and any file names: with a
file for each model the form gives one file for each, named after the
models in their order, and repeated in one file for all it gives a single
file, named after the document, which holds the contents of these, one
after the other. -/
theorem ofModels_repeated_agrees {text : String} {models : Models}
    (h : Models.ofText text = .ok models) (form : Form)
    (fileName fileNameOfAll : NamePattern) (document : String) :
    ∃ files,
      ofModels [⟨fileName, form.source⟩] models document .perModel
        = .ok files
      ∧ files.map OutputFile.name
        = models.map (fun model => fileName.nameFor model.1)
      ∧ ofModels [⟨fileNameOfAll, form.repeated⟩] models document
          .aggregated
        = .ok [⟨fileNameOfAll.nameFor document,
            String.join (files.map OutputFile.content)⟩] := by
  have hproper : ∀ entry ∈ models, entry.2.Proper :=
    fun entry hentry => Models.proper_of_ofText h hentry
  refine ⟨_, ofModels_form hproper form fileName document, ?_, ?_⟩
  · rw [List.map_map]
    rfl
  · rw [ofModels_repeated hproper, List.map_map]
    rfl

/-- A form that lists the properties of a model. -/
def listing : Form :=
  [.place (.field .key), .text ⟨" is ".toList, by simp⟩,
    .place (.field .title), .text ⟨":".toList, by simp⟩,
    .place (.properties
      [.text ⟨" ".toList, by simp⟩, .place .key,
        .text ⟨" of ".toList, by simp⟩, .place (.type .typeScript),
        .text ⟨";".toList, by simp⟩])]

/-- A document with a model that has extensions called like what a
template finds at the root. -/
def entangled : String :=
  "components:\n schemas:\n  User:\n   title: A person\n   key: k\n"
    ++ "   modelName: n\n   models: [m]\n   properties:\n"
    ++ "    tags: \x7btype: array, items: \x7b$ref: '#/Tag'\x7d\x7d\n"
    ++ "    age: \x7btype: integer\x7d\n  Tag: \x7b\x7d\n"

/-- The listing of the document, in two files and in one. -/
theorem ofModels_listing :
    ∃ models files, Models.ofText entangled = .ok models
      ∧ ofModels [⟨.ofExtension "txt", listing.source⟩] models "shop"
          .perModel = .ok files
      ∧ files.map OutputFile.name = ["User.txt", "Tag.txt"]
      ∧ files.map OutputFile.content
        = ["User is A person: tags of Tag[]; age of number;", "Tag is :"]
      ∧ ofModels [⟨.ofExtension "txt", listing.repeated⟩] models "shop"
          .aggregated
        = .ok [⟨"shop.txt",
            "User is A person: tags of Tag[]; age of number;Tag is :"⟩] := by
  have hpasses : passes (fun models =>
        models.map Prod.fst == ["User", "Tag"]
          && models.map listing.text
            == ["User is A person: tags of Tag[]; age of number;",
              "Tag is :"])
      (Models.ofText entangled) = true := by
    decide +kernel
  obtain ⟨models, hmodels, hcheck⟩ := exists_of_passes hpasses
  obtain ⟨hnames, htexts⟩ := Bool.and_eq_true_iff.1 hcheck
  have hproper : ∀ entry ∈ models, entry.2.Proper :=
    fun entry hentry => Models.proper_of_ofText hmodels hentry
  obtain ⟨files, heach, hfiles, hall⟩ :=
    ofModels_repeated_agrees hmodels listing (.ofExtension "txt")
      (.ofExtension "txt") "shop"
  have hcontents : files.map OutputFile.content
      = ["User is A person: tags of Tag[]; age of number;",
          "Tag is :"] := by
    have hform := heach.symm.trans (ofModels_form hproper listing _ _)
    rw [Except.ok.inj hform, List.map_map, ← beq_iff_eq.1 htexts]
    rfl
  refine ⟨models, files, hmodels, heach, ?_, hcontents, ?_⟩
  · have hmapped : models.map
          (fun model => (NamePattern.ofExtension "txt").nameFor model.1)
        = (models.map Prod.fst).map
            (NamePattern.ofExtension "txt").nameFor := by
      rw [List.map_map]
      rfl
    rw [hfiles, hmapped, beq_iff_eq.1 hnames]
    decide
  · rw [hall, hcontents]
    decide +kernel

end OutputFile

end SchemaPress
