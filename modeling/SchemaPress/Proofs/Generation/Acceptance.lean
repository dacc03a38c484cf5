/-
Which data the built-in templates can be rendered over.

The template of each language is made for data of one kind: that of
TypeScript for the list of all models, that of Java for one model. Over
anything else it may fail, but only where it asks an array for a name
(`Language.elements_succeedsIff`). So the data that are accepted can be
told from their shape, and nothing else about them counts.

Of the four ways to combine a language with a grouping, three always give
accepted data. The fourth renders the template of TypeScript over a
single model. The list it looks for is then an extension of the model, if
there is one of that name, and that can be anything
(`Models.accepts_subjects_iff`).
-/
import SchemaPress.Proofs.Generation.Decomposition
import SchemaPress.Proofs.Template.Success

namespace SchemaPress

-- ================================================================== shape

namespace Json

/-- A value that can be rendered like a model: neither it nor any of its
properties is an array. -/
def ModelLike (value : Json) : Prop :=
  value.isArray = false
    ∧ ∀ property ∈ ((value.field? "properties").getD .null).members,
      property.isArray = false

instance (value : Json) : Decidable value.ModelLike :=
  inferInstanceAs (Decidable (_ ∧ ∀ property ∈ _, _))

end Json

namespace Language

/-- The data that the template of a language can be rendered over. -/
def Accepts : Language → Json → Prop
  | .typeScript, data =>
      data.isArray = false
        ∧ ∀ model ∈ ((data.field? "models").getD .null).members,
          model.ModelLike
  | .java, data => data.ModelLike

open Template Template.Rendering

variable {render : Setting → Template → Rendering String} {s : Setting}
  {value : Json}

/-- A comment can be written unless the property is an array. -/
theorem commentSlot_succeedsIff (hover : s.scope.Over value) :
    SucceedsIff (value.isArray = false)
      (commentSlot.render render s) := by
  have hname : IsName "description" := fun _ => rfl
  cases hvalue : value.isArray with
  | true =>
      exact (block_succeedsIff_of_error
        (hover.resolve_error hvalue _ hname) _ _ _).congr (by simp)
  | false =>
      obtain ⟨found, hresolve⟩ :=
        (hover.resolve_ok_iff "this.description" hname).2 hvalue
      have hslot : SucceedsIff True
          ((slot "this.description" "description").render render s) :=
        (slot_succeedsIff hover _ (by decide) hname).congr
          (iff_true_intro hvalue)
      have hbody : SucceedsIff True (renderAll render s
          [.text "    /**\n     * ",
            slot "this.description" "description",
            .text "\n     */\n"]) :=
        SucceedsIff.congr
          (renderAll_succeedsIff_cons (text_succeeds _) <|
            renderAll_succeedsIff_cons hslot <|
            renderAll_succeedsIff_cons (text_succeeds _)
              renderAll_succeedsIff_nil)
          (by simp)
      exact (choice_succeedsIff hresolve true hbody).congr (by simp)

/-- What is repeated for each property can be rendered over anything but
an array. -/
theorem property_succeedsIff (language : Language)
    (hover : s.scope.Over value) :
    SucceedsIff (value.isArray = false)
      (renderAll render s (propertyElements language)) := by
  have htype : ∀ language : Language,
      SucceedsIff True (language.typeSlot.render render s) :=
    typeSlot_succeeds hover
  cases language with
  | typeScript =>
      have hslot : SucceedsIff (value.isArray = false)
          ((slot "this.description" "description").render render s) :=
        slot_succeedsIff hover _ (by decide) fun _ => rfl
      exact SucceedsIff.congr
        (renderAll_succeedsIff_cons (text_succeeds _) <|
          renderAll_succeedsIff_cons key_succeeds <|
          renderAll_succeedsIff_cons (text_succeeds _) <|
          renderAll_succeedsIff_cons hslot <|
          renderAll_succeedsIff_cons (text_succeeds _) <|
          renderAll_succeedsIff_cons key_succeeds <|
          renderAll_succeedsIff_cons (text_succeeds _) <|
          renderAll_succeedsIff_cons (htype .typeScript) <|
          renderAll_succeedsIff_cons (text_succeeds _)
            renderAll_succeedsIff_nil)
        (by simp)
  | java =>
      have hcomment : SucceedsIff (value.isArray = false)
          (commentSlot.render render s) :=
        commentSlot_succeedsIff hover
      exact SucceedsIff.congr
        (renderAll_succeedsIff_cons (text_succeeds _) <|
          renderAll_succeedsIff_cons hcomment <|
          renderAll_succeedsIff_cons (text_succeeds _) <|
          renderAll_succeedsIff_cons (htype .java) <|
          renderAll_succeedsIff_cons (text_succeeds _) <|
          renderAll_succeedsIff_cons key_succeeds <|
          renderAll_succeedsIff_cons (text_succeeds _)
            renderAll_succeedsIff_nil)
        (by simp)

/-- What is said for a model can be rendered over what is like one. -/
theorem model_succeedsIff (language : Language)
    (hover : s.scope.Over value) (hdistinct : value.Distinct) :
    SucceedsIff value.ModelLike
      (renderAll render s (modelElements language)) := by
  have hslot : ∀ spelling {name : String},
      Helper.ofName? spelling = none → IsName name →
      SucceedsIff (value.isArray = false)
        ((slot spelling name).render render s) :=
    fun spelling _ => slot_succeedsIff hover spelling
  have hloop : ∀ spelling : String, SucceedsIff value.ModelLike
      ((loop spelling "properties"
        (propertyElements language)).render render s) :=
    fun spelling => loop_succeedsIff hover hdistinct spelling
      (fun _ => rfl) fun _ _ scope hscope =>
        property_succeedsIff (s := { s with scope }) language hscope
  cases language with
  | typeScript =>
      exact SucceedsIff.congr
        (renderAll_succeedsIff_cons (text_succeeds _) <|
          renderAll_succeedsIff_cons
            (hslot "this.title" (by decide) fun _ => rfl) <|
          renderAll_succeedsIff_cons (text_succeeds _) <|
          renderAll_succeedsIff_cons
            (hslot "this.description" (by decide) fun _ => rfl) <|
          renderAll_succeedsIff_cons (text_succeeds _) <|
          renderAll_succeedsIff_cons
            (hslot "this.modelName" (by decide) fun _ => rfl) <|
          renderAll_succeedsIff_cons (text_succeeds _) <|
          renderAll_succeedsIff_cons (hloop "this.properties") <|
          renderAll_succeedsIff_cons (text_succeeds _)
            renderAll_succeedsIff_nil)
        (by simp [Json.ModelLike])
  | java =>
      exact SucceedsIff.congr
        (renderAll_succeedsIff_cons (text_succeeds _) <|
          renderAll_succeedsIff_cons
            (hslot "title" (by decide) fun _ => rfl) <|
          renderAll_succeedsIff_cons (text_succeeds _) <|
          renderAll_succeedsIff_cons
            (hslot "description" (by decide) fun _ => rfl) <|
          renderAll_succeedsIff_cons (text_succeeds _) <|
          renderAll_succeedsIff_cons
            (hslot "modelName" (by decide) fun _ => rfl) <|
          renderAll_succeedsIff_cons (text_succeeds _) <|
          renderAll_succeedsIff_cons (hloop "properties") <|
          renderAll_succeedsIff_cons (text_succeeds _)
            renderAll_succeedsIff_nil)
        (by simp [Json.ModelLike])

/-- The template of a language can be rendered over the data that it
accepts, and no others. -/
theorem elements_succeedsIff (language : Language)
    (hover : s.scope.Over value) (hdistinct : value.Distinct) :
    SucceedsIff (language.Accepts value)
      (renderAll render s language.elements) := by
  cases language with
  | java => exact model_succeedsIff .java hover hdistinct
  | typeScript =>
      have hloop : SucceedsIff (Language.typeScript.Accepts value)
          ((loop "models" "models"
            (modelElements .typeScript)).render render s) :=
        loop_succeedsIff hover hdistinct "models" (fun _ => rfl)
          fun _ hitem scope hscope => model_succeedsIff
            (s := { s with scope }) .typeScript hscope hitem
      exact (renderAll_succeedsIff_cons hloop
        renderAll_succeedsIff_nil).congr (by simp [Accepts])

/-- The template of a language renders to a text over the data that it
accepts. -/
theorem exists_render_iff (language : Language) {data : Json}
    (hdistinct : data.Distinct) (name : String)
    (templates : Fields Template) :
    (∃ text, Template.render name templates language.elements data
        = .ok text) ↔ language.Accepts data := by
  have hrenders : SucceedsIff (language.Accepts data)
      (renderAll (renderWithin (inclusionLimit - 1))
        (.ofData templates data) language.elements) :=
    elements_succeedsIff language (Scope.ofData_over data) hdistinct
  rw [← hrenders (.start name)]
  show (∃ text, Except.map Prod.fst ((renderAll (renderWithin
    (inclusionLimit - 1)) (.ofData templates data)
    language.elements).run (.start name)) = .ok text) ↔ _
  cases (renderAll (renderWithin (inclusionLimit - 1))
      (.ofData templates data) language.elements).run (.start name) with
  | error e => simp [Except.map]
  | ok result => simp [Except.map]

end Language

-- =================================================================== data

namespace Model

variable {m : Model}

/-- A model is like a model, whatever its extensions are. -/
theorem Proper.modelLike_data (h : m.Proper) (name : String) :
    (m.data name).ModelLike := by
  refine ⟨rfl, ?_⟩
  rw [data, Json.field?, h.get?_properties_dataFields name]
  intro property hproperty
  obtain ⟨entry, hentry, rfl⟩ := List.mem_map.1 hproperty
  obtain ⟨source, -, rfl⟩ := List.mem_map.1 hentry
  rw [Schema.toJson_eq]
  rfl

/-- A name that has no meaning for models is that of an extension. -/
theorem get?_models_dataFields (name : String) (m : Model) :
    Fields.get? "models" (m.dataFields name)
      = Fields.get? "models" m.extensions := by
  have hown : "models" ∉ Fields.names m.ownFields := by
    intro hmem
    exact absurd ((names_ownFields_sublist m).subset hmem) (by decide)
  rw [get?_dataFields (by decide) (by decide), toFields_eq,
    Fields.get?_append, Fields.get?_of_not_mem hown, Option.none_or]

/-- What a model has under the name of the list of all models can be
rendered like such a list. -/
def ListLike (m : Model) : Prop :=
  ∀ item ∈ ((Fields.get? "models" m.extensions).getD .null).members,
    item.ModelLike

instance (m : Model) : Decidable m.ListLike :=
  inferInstanceAs (Decidable (∀ item ∈ _, _))

end Model

namespace Models

variable {models : Models}

theorem data_distinct (hproper : ∀ entry ∈ models, entry.2.Proper) :
    models.data.Distinct := by
  refine .object (by simp [Fields.names]) ?_
  intro entry hentry
  rw [List.mem_singleton.1 hentry]
  refine .array fun item hitem => ?_
  obtain ⟨model, hmodel, rfl⟩ := List.mem_map.1 hitem
  exact (hproper model hmodel).data_distinct model.1

theorem subjects_distinct (hproper : ∀ entry ∈ models, entry.2.Proper)
    (grouping : Grouping) (document : String) :
    ∀ subject ∈ models.subjects grouping document,
      subject.2.Distinct := by
  cases grouping with
  | perModel =>
      intro subject hsubject
      obtain ⟨model, hmodel, rfl⟩ := List.mem_map.1 hsubject
      exact (hproper model hmodel).data_distinct model.1
  | aggregated =>
      intro subject hsubject
      rw [List.mem_singleton.1 hsubject]
      exact data_distinct hproper

/-- The templates accept what they are rendered over, except that the
template for all models may not accept a single one. -/
theorem accepts_subjects_iff (hproper : ∀ entry ∈ models, entry.2.Proper)
    (language : Language) (grouping : Grouping) (document : String) :
    (∀ subject ∈ models.subjects grouping document,
        language.Accepts subject.2)
      ↔ (language = .typeScript → grouping = .perModel →
          ∀ entry ∈ models, entry.2.ListLike) := by
  cases grouping with
  | aggregated =>
      refine iff_of_true ?_ (by simp)
      intro subject hsubject
      rw [List.mem_singleton.1 hsubject]
      cases language with
      | typeScript =>
          refine ⟨rfl, fun item hitem => ?_⟩
          obtain ⟨model, hmodel, rfl⟩ := List.mem_map.1 hitem
          exact (hproper model hmodel).modelLike_data model.1
      | java => exact ⟨rfl, by simp [data, Json.field?, Fields.get?,
          Json.members]⟩
  | perModel =>
      rw [subjects, List.forall_mem_map]
      cases language with
      | typeScript =>
          have haccepts : ∀ model : String × Model,
              Language.typeScript.Accepts (model.2.data model.1)
                ↔ model.2.ListLike := by
            intro model
            rw [Language.Accepts, Model.data, Json.field?,
              Model.get?_models_dataFields]
            exact and_iff_right rfl
          simp only [haccepts, forall_const]
      | java =>
          refine iff_of_true ?_ (by simp)
          exact fun model hmodel =>
            (hproper model hmodel).modelLike_data model.1

end Models

-- ================================================================= files

namespace OutputFile

/-- A subject gives a file if the template renders to a text over it. -/
theorem exists_ofSubject_iff {name : String} {templates : Fields Template}
    {template : Template} {fileName : NamePattern}
    {subject : String × Json} :
    (∃ file, ofSubject name templates template fileName subject = .ok file)
      ↔ ∃ text, Template.render name templates template subject.2
        = .ok text := by
  unfold ofSubject
  cases Template.render name templates template subject.2 with
  | error cause => simp
  | ok text => simp

/-- The template of a language gives files if it accepts all that it is
rendered over. -/
theorem exists_ofModels_namedTemplate_iff {models : Models}
    (hproper : ∀ entry ∈ models, entry.2.Proper) (language : Language)
    (document : String) (grouping : Grouping) :
    (∃ files, ofModels [language.namedTemplate] models document grouping
        = .ok files)
      ↔ (language = .typeScript → grouping = .perModel →
          ∀ entry ∈ models, entry.2.ListLike) := by
  have hread : Template.ofSource language.namedTemplate.source
      = .ok language.elements := Language.ofSource_template language
  have hfiles : ofModels [language.namedTemplate] models document grouping
      = (models.subjects grouping document).mapM
          (ofSubject (templateName 0)
            [(templateName 0, language.elements)] language.elements
            language.namedTemplate.fileName) := by
    rw [ofModels, ofTemplates_singleton, hread]
    rfl
  rw [hfiles, exists_mapM_eq_ok_iff,
    ← Models.accepts_subjects_iff hproper language grouping document]
  refine forall₂_congr fun subject hsubject => ?_
  rw [exists_ofSubject_iff, language.exists_render_iff
    (Models.subjects_distinct hproper grouping document subject hsubject)]

end OutputFile

end SchemaPress
