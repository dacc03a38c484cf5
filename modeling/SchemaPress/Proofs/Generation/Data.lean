/-
The data of a model: what a template sees of it.

The data are the fields that the model is written as, with its name put
under two of them. Writing a name in does one of two things, and both can
happen to either name. If the model has an extension that is called so,
the extension keeps its place and loses its value; if not, there is one
more field at the end. A recognised field never is called so. So

- the fields are those that are written, in their order, with what is
  missing of the two at the end, and no two of them have the same name
  (`names_dataFields`, `Proper.data_distinct`);
- a field with another name has the value that is written
  (`get?_dataFields`), and each of the two has the name of the model;
- read back, the data are the model with two extensions written in
  (`Proper.ofJson?_data`).
-/
import SchemaPress.Generation.Output
import SchemaPress.Proofs.Model.RoundTrip

namespace SchemaPress

/-- Writing a name adds it at the end, unless it is among the names that
are there; a list that agrees on it will do to tell. -/
theorem Fields.names_insert {α : Type} {name : String}
    {fields : Fields α} {others : List String}
    (h : name ∈ Fields.names fields ↔ name ∈ others) (value : α) :
    Fields.names (Fields.insert name value fields)
      = Fields.names fields ++ [name].filter fun n => n ∉ others := by
  by_cases hmem : name ∈ others
  · rw [Fields.names_insert_of_mem _ _ _ (h.2 hmem)]
    simp [hmem]
  · rw [Fields.names_insert_of_not_mem _ _ _ (mt h.1 hmem)]
    simp [hmem]

namespace Model

variable {m : Model}

-- ============================================================== looking up

theorem get?_modelName_dataFields (name : String) (m : Model) :
    Fields.get? "modelName" (m.dataFields name)
      = some (.string name) := by
  rw [dataFields, Fields.get?_insert, if_pos rfl]

theorem get?_key_dataFields (name : String) (m : Model) :
    Fields.get? "key" (m.dataFields name) = some (.string name) := by
  rw [dataFields, Fields.get?_insert, if_neg (by decide),
    Fields.get?_insert, if_pos rfl]

/-- The two names of a model do not hide another field. -/
theorem get?_dataFields {field : String} (hkey : "key" ≠ field)
    (hname : "modelName" ≠ field) (name : String) (m : Model) :
    Fields.get? field (m.dataFields name)
      = Fields.get? field m.toFields := by
  rw [dataFields, Fields.get?_insert, if_neg hname, Fields.get?_insert,
    if_neg hkey]

theorem Proper.get?_title_dataFields (h : m.Proper) (name : String) :
    Fields.get? "title" (m.dataFields name)
      = m.title.map Json.string := by
  rw [get?_dataFields (by decide) (by decide), h.get?_title]

theorem Proper.get?_description_dataFields (h : m.Proper)
    (name : String) :
    Fields.get? "description" (m.dataFields name)
      = m.description.map Json.string := by
  rw [get?_dataFields (by decide) (by decide), h.get?_description]

theorem Proper.get?_properties_dataFields (h : m.Proper)
    (name : String) :
    Fields.get? "properties" (m.dataFields name)
      = some (.object
          (Fields.mapValues Schema.toJson m.properties)) := by
  rw [get?_dataFields (by decide) (by decide), h.get?_properties]

-- =================================================================== names

/-- The names of the fields of the model itself, as far as these are
there. -/
theorem names_ownFields (m : Model) :
    Fields.names m.ownFields
      = (m.title.map fun _ => "title").toList
        ++ (m.description.map fun _ => "description").toList
        ++ ["properties"] := by
  unfold ownFields Schema.textField
  cases m.title with
  | none =>
      cases m.description with
      | none => rfl
      | some description => rfl
  | some title =>
      cases m.description with
      | none => rfl
      | some description => rfl

/-- A name without a meaning is written only as that of an extension. -/
theorem mem_names_toFields_iff {field : String} (h : field ∉ keywords) :
    field ∈ Fields.names m.toFields
      ↔ field ∈ Fields.names m.extensions := by
  have hown : field ∉ Fields.names m.ownFields :=
    fun hmem => h ((names_ownFields_sublist m).subset hmem)
  rw [toFields_eq, Fields.names, List.map_append, List.mem_append]
  exact or_iff_right hown

/-- The fields of the data: those of the model itself, its extensions in
their order, and whichever of the two names is missing there. -/
theorem names_dataFields (name : String) (m : Model) :
    Fields.names (m.dataFields name)
      = Fields.names m.ownFields ++ Fields.names m.extensions
        ++ ["key", "modelName"].filter (fun field =>
            field ∉ Fields.names m.extensions) := by
  have hwithin : "key" ∈ Fields.names m.toFields
      ↔ "key" ∈ Fields.names m.extensions :=
    mem_names_toFields_iff (by decide)
  have hkey := Fields.names_insert hwithin (Json.string name)
  have hboth : "modelName" ∈ Fields.names
        (Fields.insert "key" (.string name) m.toFields)
      ↔ "modelName" ∈ Fields.names m.extensions := by
    rw [hkey, List.mem_append, mem_names_toFields_iff (by decide)]
    simp
  have hwritten : Fields.names m.toFields
      = Fields.names m.ownFields ++ Fields.names m.extensions :=
    List.map_append
  rw [dataFields, Fields.names_insert hboth, hkey, hwritten,
    List.append_assoc _ (["key"].filter _), ← List.filter_append]
  rfl

/-- The data of a proper model are written with distinct names at every
depth. -/
theorem Proper.data_distinct (h : m.Proper) (name : String) :
    (m.data name).Distinct := by
  cases h.toJson_distinct with
  | object hnodup hvalues =>
      refine .object (Fields.names_insert_nodup _ _ _
        (Fields.names_insert_nodup _ _ _ hnodup)) ?_
      intro entry hentry
      rcases Fields.mem_of_mem_insert hentry with rfl | hentry
      · exact .string name
      · rcases Fields.mem_of_mem_insert hentry with rfl | hentry
        · exact .string name
        · exact hvalues entry hentry

-- ============================================================ reading back

/-- Read back, the data are the model with its name written into the
extensions, under both names. -/
theorem Proper.ofJson?_data (h : m.Proper) (name : String) :
    ofJson? (m.data name)
      = some { m with
          extensions := Fields.insert "modelName" (.string name)
            (Fields.insert "key" (.string name) m.extensions) } := by
  have hback : ofFields m.toFields = m := Option.some.inj h.ofJson?_toJson
  have hown : ofFields (m.dataFields name)
      = { ofFields m.toFields with
          extensions := Fields.without keywords (m.dataFields name) } := by
    have hsame : ∀ field, "key" ≠ field → "modelName" ≠ field →
        Fields.get? field (m.dataFields name)
          = Fields.get? field m.toFields :=
      fun _ hkey hname => get?_dataFields hkey hname name m
    simp only [ofFields, Schema.textAt, hsame "title" (by decide)
      (by decide), hsame "description" (by decide) (by decide),
      hsame "properties" (by decide) (by decide)]
  have hextensions : Fields.without keywords (m.dataFields name)
      = Fields.insert "modelName" (.string name)
          (Fields.insert "key" (.string name) m.extensions) := by
    rw [dataFields, Fields.without_insert (by decide),
      Fields.without_insert (by decide), h.without_toFields]
  rw [data, ofJson?, hown, hback, hextensions]

end Model

namespace Models

-- ============================================================= of documents

/-- The data of a model that a document declares, under any name. Its
fields have distinct names: title and description as far as they are
there, the properties, the extensions in their order, and the two names
at the end unless an extension is called so. Both of the two are the
name, and every other field is what is written of the model. Read back,
the data are the model but for the two among its extensions. -/
theorem data_of_ofText {text : String} {models : Models}
    (h : ofText text = .ok models) {declared : String} {m : Model}
    (hm : (declared, m) ∈ models) (name : String) :
    ∃ fields, m.data name = .object fields
      ∧ Fields.names fields
        = (m.title.map fun _ => "title").toList
          ++ (m.description.map fun _ => "description").toList
          ++ ["properties"] ++ Fields.names m.extensions
          ++ ["key", "modelName"].filter (fun field =>
              field ∉ Fields.names m.extensions)
      ∧ (Fields.names fields).Nodup
      ∧ Fields.get? "key" fields = some (.string name)
      ∧ Fields.get? "modelName" fields = some (.string name)
      ∧ (∀ field, field ≠ "key" → field ≠ "modelName" →
          Fields.get? field fields = Fields.get? field m.toFields)
      ∧ Model.ofJson? (m.data name)
        = some { m with
            extensions := Fields.insert "modelName" (.string name)
              (Fields.insert "key" (.string name) m.extensions) } := by
  have hproper : m.Proper := proper_of_ofText h hm
  refine ⟨m.dataFields name, rfl, ?_, ?_, Model.get?_key_dataFields name m,
    Model.get?_modelName_dataFields name m, ?_,
    hproper.ofJson?_data name⟩
  · rw [Model.names_dataFields, Model.names_ownFields]
  · cases hproper.data_distinct name with
    | object hnodup _ => exact hnodup
  · intro field hkey hname
    exact Model.get?_dataFields (Ne.symm hkey) (Ne.symm hname) name m

/-- A document with a model that has an extension called like one of the
two names. -/
def renamed : String :=
  "components:\n  schemas:\n    User:\n      modelName: Person\n"
    ++ "      title: A user\n      type: object\n"

/-- The data of the model have one of the two names in the place of the
extension, and the other one at the end. -/
theorem data_of_renamed :
    ∃ models m fields, ofText renamed = .ok models
      ∧ ("User", m) ∈ models
      ∧ m.data "User" = .object fields
      ∧ Fields.names fields
        = ["title", "properties", "modelName", "type", "key"]
      ∧ Fields.get? "key" fields = some (.string "User")
      ∧ Fields.get? "modelName" fields = some (.string "User")
      ∧ Fields.get? "title" fields = Fields.get? "title" m.toFields := by
  have hpasses : passes (fun models =>
      (Fields.get? "User" models).map (fun m =>
        (m.title.isSome, m.description.isSome, Fields.names m.extensions))
        == some (true, false, ["modelName", "type"]))
      (ofText renamed) = true := by
    decide +kernel
  obtain ⟨models, hmodels, hcheck⟩ := exists_of_passes hpasses
  obtain ⟨m, hm, hparts⟩ := Option.map_eq_some_iff.1 (beq_iff_eq.1 hcheck)
  simp only [Prod.mk.injEq] at hparts
  obtain ⟨htitle, hdescription, hextensions⟩ := hparts
  obtain ⟨title, htitle⟩ := Option.isSome_iff_exists.1 htitle
  have hdescription : m.description = none := by
    rw [← Option.not_isSome_iff_eq_none, hdescription]
    exact Bool.false_ne_true
  obtain ⟨fields, hdata, hnames, -, hkey, hname, hother, -⟩ :=
    data_of_ofText hmodels (Fields.mem_of_get? hm) "User"
  refine ⟨models, m, fields, hmodels, Fields.mem_of_get? hm, hdata, ?_,
    hkey, hname, hother "title" (by decide) (by decide)⟩
  rw [hnames, htitle, hdescription, hextensions]
  rfl

end Models

end SchemaPress
