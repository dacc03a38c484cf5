/-
Models read back from what they are written as, and the models that a
document can declare.

A model is written like a schema, its properties under a key of their own
and each of them as a schema. What has to hold of it for the way back is
`Proper`, as for schemas, and in addition the names of properties are
distinct: a template looks a property up by its name, and there must be
no other one that it could find.

`proper_of_ofText` is where the two meet: keys are made text before
models are read, so all JSON involved has distinct names, and every model
read from it is proper.
-/
import SchemaPress.Model.Document
import SchemaPress.Proofs.Outcome
import SchemaPress.Proofs.Schema.RoundTrip
import SchemaPress.Template.Helper

namespace SchemaPress

namespace Model

/-- A model whose extensions have distinct names, none of them a
recognised key, and whose properties have distinct names and are
proper. -/
structure Proper (m : Model) : Prop where
  not_mem_keywords : ∀ name ∈ Fields.names m.extensions, name ∉ keywords
  extensions_nodup : (Fields.names m.extensions).Nodup
  extensions_distinct : ∀ entry ∈ m.extensions, entry.2.Distinct
  properties_nodup : (Fields.names m.properties).Nodup
  properties_proper : ∀ entry ∈ m.properties, entry.2.Proper

-- ================================================================ reading

/-- The properties read from JSON with distinct names have distinct names
and are proper. -/
theorem propertiesOf_proper {value : Option Json}
    (hdistinct : ∀ v, value = some v → v.Distinct) :
    (Fields.names (propertiesOf value)).Nodup
      ∧ ∀ entry ∈ propertiesOf value, entry.2.Proper := by
  unfold propertiesOf
  split
  case h_2 => exact ⟨List.nodup_nil, fun entry h => by cases h⟩
  case h_1 fields =>
      cases hdistinct _ rfl with
      | object hnodup hvalues =>
          refine ⟨by rw [Fields.names_mapValues]; exact hnodup, ?_⟩
          intro entry hentry
          obtain ⟨source, hsource, rfl⟩ := List.mem_map.1 hentry
          exact Schema.ofJson_proper (hvalues source hsource)

/-- A model read from fields with distinct names is proper. -/
theorem ofFields_proper {fields : Fields Json}
    (hnodup : (Fields.names fields).Nodup)
    (hvalues : ∀ entry ∈ fields, entry.2.Distinct) :
    (ofFields fields).Proper := by
  have hdistinct : ∀ v, Fields.get? "properties" fields = some v →
      v.Distinct :=
    fun v hv => hvalues _ (Fields.mem_of_get? hv)
  obtain ⟨hprop, hproper⟩ := propertiesOf_proper hdistinct
  exact
    { not_mem_keywords := fun _ => Fields.not_mem_of_mem_names_without
      extensions_nodup := Fields.names_without_nodup _ hnodup
      extensions_distinct := fun entry hentry =>
        hvalues entry (List.mem_filter.1 hentry).1
      properties_nodup := hprop
      properties_proper := hproper }

theorem proper_of_ofJson? {value : Json} (hdistinct : value.Distinct)
    {m : Model} (h : ofJson? value = some m) : m.Proper := by
  cases hdistinct with
  | object hnodup hvalues =>
      cases h
      exact ofFields_proper hnodup hvalues
  | null =>
      -- a name with nothing behind it declares what no fields declare
      cases h
      have hnames : (Fields.names ([] : Fields Json)).Nodup :=
        List.nodup_nil
      have hnone : ∀ entry ∈ ([] : Fields Json), entry.2.Distinct :=
        fun entry hentry => by cases hentry
      exact ofFields_proper hnames hnone
  | _ => cases h

/-- A model is read from what its tree is as JSON. -/
theorem ofJson?_of_ofNode? {node : Yaml.Node} {m : Model}
    (h : ofNode? node = some m) : ofJson? node.toJson = some m := by
  cases node with
  | null => exact h
  | mapping entries => exact h
  | _ => cases h

/-- Models are read one by one, each under its name. -/
theorem of_mem_allOfEntries? {fields : Fields Yaml.Node}
    {models : Models}
    (h : allOfEntries? (fields.map fun entry => (.string entry.1, entry.2))
      = some models) {entry : String × Model} (hentry : entry ∈ models) :
    ∃ node, (entry.1, node) ∈ fields ∧ ofNode? node = some entry.2 := by
  induction fields generalizing models with
  | nil => cases h; cases hentry
  | cons first rest ih =>
      obtain ⟨name, node⟩ := first
      rw [List.map_cons, allOfEntries?] at h
      obtain ⟨m, hm, h⟩ := Option.bind_eq_some_iff.1 h
      obtain ⟨more, hmore, h⟩ := Option.bind_eq_some_iff.1 h
      cases h
      rcases List.mem_cons.1 hentry with rfl | hrest
      · exact ⟨node, List.mem_cons_self .., hm⟩
      · obtain ⟨n, hn, hread⟩ := ih hmore hrest
        exact ⟨n, List.mem_cons_of_mem _ hn, hread⟩

-- ================================================================ writing

/-- Title and description, as far as they are there, and the
properties. -/
def ownFields (m : Model) : Fields Json :=
  Schema.textField "title" m.title
    ++ Schema.textField "description" m.description
    ++ [("properties",
          .object (Fields.mapValues Schema.toJson m.properties))]

/-- The written fields are those of the model itself and the
extensions. -/
theorem toFields_eq (m : Model) :
    m.toFields = m.ownFields ++ m.extensions := rfl

/-- The fields of the model itself have recognised keys. -/
theorem names_ownFields_sublist (m : Model) :
    (Fields.names m.ownFields).Sublist keywords := by
  unfold ownFields
  simp only [Fields.names, List.map_append]
  exact ((Schema.names_textField_sublist "title" _).append
    (Schema.names_textField_sublist "description" _)).append
    (List.Sublist.refl ["properties"])

variable {m : Model}

/-- A recognised key is found among the written fields as if there were
no extensions. -/
theorem Proper.get?_toFields (h : m.Proper) {name : String}
    (hname : name ∈ keywords) :
    Fields.get? name m.toFields = Fields.get? name m.ownFields := by
  have hext : name ∉ Fields.names m.extensions :=
    fun hmem => h.not_mem_keywords name hmem hname
  rw [toFields_eq, Fields.get?_append, Fields.get?_of_not_mem hext,
    Option.or_none]

theorem Proper.get?_title (h : m.Proper) :
    Fields.get? "title" m.toFields = m.title.map Json.string := by
  rw [h.get?_toFields (by decide), ownFields]
  simp [Fields.get?_append, Fields.get?]

theorem Proper.get?_description (h : m.Proper) :
    Fields.get? "description" m.toFields
      = m.description.map Json.string := by
  rw [h.get?_toFields (by decide), ownFields]
  simp [Fields.get?_append, Fields.get?]

theorem Proper.get?_properties (h : m.Proper) :
    Fields.get? "properties" m.toFields
      = some (.object (Fields.mapValues Schema.toJson m.properties)) := by
  rw [h.get?_toFields (by decide), ownFields]
  simp [Fields.get?_append, Fields.get?]

/-- Without the recognised keys the extensions are what remains of the
written fields. -/
theorem Proper.without_toFields (h : m.Proper) :
    Fields.without keywords m.toFields = m.extensions := by
  have hown : Fields.without keywords m.ownFields = [] := by
    unfold ownFields
    rw [Fields.without_append, Fields.without_append,
      Schema.without_textField (by decide),
      Schema.without_textField (by decide)]
    rfl
  rw [toFields_eq, Fields.without_append, hown, List.nil_append,
    Fields.without_of_forall_not_mem h.not_mem_keywords]

-- ============================================================= round trip

/-- A proper model is read back from what it is written as. -/
theorem Proper.ofJson?_toJson (h : m.Proper) :
    ofJson? m.toJson = some m := by
  have hproperties : propertiesOf (Fields.get? "properties" m.toFields)
      = m.properties := by
    rw [h.get?_properties, propertiesOf, Fields.mapValues_mapValues]
    exact Fields.mapValues_eq_self fun entry hentry =>
      (h.properties_proper entry hentry).ofJson_toJson
  rw [toJson, ofJson?, ofFields, hproperties, h.without_toFields,
    Schema.textAt, Schema.textAt, h.get?_title, h.get?_description,
    Schema.bind_string?_map_string, Schema.bind_string?_map_string]

/-- A proper model is written with distinct names at every depth. -/
theorem Proper.toJson_distinct (h : m.Proper) : m.toJson.Distinct := by
  refine .object ?_ ?_
  · rw [toFields_eq, Fields.names, List.map_append]
    refine List.nodup_append.2
      ⟨(names_ownFields_sublist m).nodup (by decide),
        h.extensions_nodup, ?_⟩
    intro name hname other hother heq
    exact h.not_mem_keywords other hother
      (heq ▸ (names_ownFields_sublist m).subset hname)
  · intro entry hentry
    rcases List.mem_append.1 hentry with hown | hext
    · simp only [List.mem_append, List.mem_singleton] at hown
      rcases hown with (htitle | hdescription) | rfl
      · exact Schema.distinct_of_mem_textField htitle
      · exact Schema.distinct_of_mem_textField hdescription
      · refine .object ?_ ?_
        · rw [Fields.names_mapValues]
          exact h.properties_nodup
        · intro property hproperty
          obtain ⟨source, hsource, rfl⟩ := List.mem_map.1 hproperty
          exact (h.properties_proper source hsource).toJson_distinct
    · exact h.extensions_distinct entry hext

end Model

-- ================================================================ helpers

/-- The type of a proper schema is what a template is told that is given
the schema as it is written. -/
theorem Template.Helper.value_typeName {s : Schema} (h : s.Proper)
    (language : Language) {found : Template.Found}
    (hfound : found.json = s.toJson) (rest : List Template.Found)
    (options : Fields Template.Found) :
    (Helper.typeName language).value ⟨found :: rest, options⟩
      = .ok (.string (language.typeOfSchema s)) := by
  have htype : typeOf language found.json = language.typeOfSchema s := by
    rw [typeOf, hfound, h.ofJson_toJson]
  rw [← htype]
  rfl

-- ============================================================== documents

namespace Models

/-- What declarations are that can be read. -/
theorem exists_fields_of_ofDeclarations {schemas : Yaml.Node}
    {models : Models} (h : ofDeclarations schemas = .ok models) :
    ∃ fields : Fields Yaml.Node,
      (∀ entry ∈ fields, entry.2.JsonShaped)
      ∧ Model.allOfEntries?
          (fields.map fun entry => (.string entry.1, entry.2))
        = some models := by
  have hshaped := schemas.withTextKeys_jsonShaped
  unfold ofDeclarations at h
  cases hentries : schemas.withTextKeys with
  | mapping entries =>
      rw [hentries] at h hshaped
      cases hshaped with
      | mapping hnodup hvalues =>
          refine ⟨_, hvalues, ?_⟩
          dsimp only at h
          split at h
          · next found hfound =>
              cases h
              exact hfound
          · cases h
  | _ => rw [hentries] at h; cases h

/-- Every model that declarations hold is proper. -/
theorem proper_of_ofDeclarations {schemas : Yaml.Node} {models : Models}
    (h : ofDeclarations schemas = .ok models)
    {entry : String × Model} (hentry : entry ∈ models) :
    entry.2.Proper := by
  obtain ⟨fields, hvalues, hall⟩ := exists_fields_of_ofDeclarations h
  obtain ⟨node, hnode, hread⟩ := Model.of_mem_allOfEntries? hall hentry
  exact Model.proper_of_ofJson?
    (Yaml.Node.toJson_distinct (hvalues _ hnode))
    (Model.ofJson?_of_ofNode? hread)

/-- Every model of a document is proper. -/
theorem proper_of_ofText {text : String} {models : Models}
    (h : ofText text = .ok models) {entry : String × Model}
    (hentry : entry ∈ models) : entry.2.Proper := by
  unfold ofText at h
  split at h
  case h_2 => cases h
  case h_1 document hdocument =>
      unfold ofDocument at h
      cases hdecl : declarations document with
      | error reason => rw [hdecl] at h; cases h
      | ok schemas =>
          rw [hdecl] at h
          exact proper_of_ofDeclarations h hentry

/-- What a document declares is read back from what it is written as: the
models, the schemas of their properties, and the schemas that stand in
the items of these, at any depth. No extension has the name of a
recognised key, so written names are distinct; and a template that is
given a written property is told the type of the property. -/
theorem read_back_of_ofText {text : String} {models : Models}
    (h : ofText text = .ok models) {name : String} {m : Model}
    (hm : (name, m) ∈ models) :
    Model.ofJson? m.toJson = some m
      ∧ m.toJson.Distinct
      ∧ (∀ key ∈ Fields.names m.extensions, key ∉ Model.keywords)
      ∧ ∀ property s, (property, s) ∈ m.properties →
          (∀ t : Schema, t.Within s →
            Schema.ofJson? t.toJson = some t
              ∧ ∀ key ∈ Fields.names t.extensions,
                  key ∉ Schema.keywords)
          ∧ ∀ (language : Language) (found : Template.Found)
              (rest : List Template.Found)
              (options : Fields Template.Found),
              found.json = s.toJson →
              (Template.Helper.typeName language).value
                  ⟨found :: rest, options⟩
                = .ok (.string (language.typeOfSchema s)) := by
  have hproper : m.Proper := proper_of_ofText h hm
  refine ⟨hproper.ofJson?_toJson, hproper.toJson_distinct,
    hproper.not_mem_keywords, ?_⟩
  intro property s hs
  have hschema : s.Proper := hproper.properties_proper _ hs
  refine ⟨?_, ?_⟩
  · intro t hwithin
    have ht := hschema.of_within hwithin
    exact ⟨ht.ofJson?_toJson, ht.not_mem_keywords⟩
  · intro language found rest options hfound
    exact Template.Helper.value_typeName hschema language hfound rest
      options

/-- A document in which recognised keys have values of the wrong shape,
in the model, in a property and in its items. -/
def misshapen : String :=
  "components:\n  schemas:\n    User:\n      title: [no text]\n"
    ++ "      required: [tags]\n      properties:\n        tags:\n"
    ++ "          type: array\n          $ref: 7\n          items:\n"
    ++ "            type: [string]\n            items: none\n"
    ++ "            format: email\n"

/-- The misshapen document declares a model, with a property whose items
have an extension; what it declares is read back. -/
theorem read_back_of_misshapen :
    ∃ models m s t, ofText misshapen = .ok models
      ∧ ("User", m) ∈ models ∧ ("tags", s) ∈ m.properties
      ∧ s.items = some t ∧ Fields.names t.extensions = ["format"]
      ∧ Model.ofJson? m.toJson = some m
      ∧ Schema.ofJson? t.toJson = some t := by
  -- evaluation finds the three one inside the other
  have hpasses : passes (fun models =>
      ((Fields.get? "User" models).bind fun m =>
        (Fields.get? "tags" m.properties).bind fun s =>
          s.items.map fun t => Fields.names t.extensions)
        == some ["format"]) (ofText misshapen) = true := by
    decide +kernel
  obtain ⟨models, hmodels, hcheck⟩ := exists_of_passes hpasses
  obtain ⟨m, hm, hcheck⟩ := Option.bind_eq_some_iff.1 (beq_iff_eq.1 hcheck)
  obtain ⟨s, hs, hcheck⟩ := Option.bind_eq_some_iff.1 hcheck
  obtain ⟨t, ht, hnames⟩ := Option.map_eq_some_iff.1 hcheck
  have hmem := Fields.mem_of_get? hm
  have hproperty := Fields.mem_of_get? hs
  obtain ⟨hback, -, -, hproperties⟩ := read_back_of_ofText hmodels hmem
  exact ⟨models, m, s, t, hmodels, hmem, hproperty, ht, hnames, hback,
    ((hproperties "tags" s hproperty).1 t (.items ht .self)).1⟩

end Models

end SchemaPress
