/-
Schemas read back from what they are written as.

# What can go wrong

A schema is written as one object, its recognised keys and its extensions
side by side. An extension with the name of a recognised key would be
taken for that key on the way back, and an absent key would come to life.
Reading drops every recognised key from the extensions, also the ones
whose values it does not understand, so no schema that has been read has
such an extension. `Proper` is this fact at every depth of `items`,
together with what makes the written object an object in the strict
sense: names that are distinct.

# The two directions

- `proper_of_ofJson?`: what is read from JSON with distinct names is
  proper. The induction is on the JSON; the items of a schema are read
  from a value below it.
- `Proper.ofJson?_toJson`: what is proper is read back as it was. The
  induction is on the schema, along its items.
-/
import SchemaPress.Proofs.Yaml.Shape
import SchemaPress.Schema

namespace SchemaPress.Schema

-- ============================================================= vocabulary

/-- Schemas that stand in a schema: itself, and what stands in its
items. -/
inductive Within (t : Schema) : Schema → Prop
  | self : Within t t
  | items {s u : Schema} (hitems : s.items = some u)
      (hwithin : Within t u) : Within t s

/-- A schema whose extensions have distinct names, none of them a
recognised key, at every depth of its items. -/
inductive Proper : Schema → Prop
  | intro {s : Schema}
      (hkeywords : ∀ name ∈ Fields.names s.extensions, name ∉ keywords)
      (hnodup : (Fields.names s.extensions).Nodup)
      (hvalues : ∀ entry ∈ s.extensions, entry.2.Distinct)
      (hitems : ∀ t, s.items = some t → Proper t) : Proper s

/-- No extension of a proper schema has the name of a recognised key. -/
theorem Proper.not_mem_keywords {s : Schema} (h : s.Proper) :
    ∀ name ∈ Fields.names s.extensions, name ∉ keywords := by
  cases h with
  | intro hkeywords _ _ _ => exact hkeywords

/-- What stands in a proper schema is proper. -/
theorem Proper.of_within {s t : Schema} (h : s.Proper)
    (hwithin : t.Within s) : t.Proper := by
  induction hwithin with
  | self => exact h
  | items hitems _ ih =>
      cases h with
      | intro _ _ _ hproper => exact ih (hproper _ hitems)

-- ================================================================ reading

/-- The items are read from what stands under their key. -/
theorem itemsOf?_eq (fields : Fields Json) :
    itemsOf? fields = (Fields.get? "items" fields).bind ofJson? := by
  induction fields with
  | nil => rw [itemsOf?]; rfl
  | cons entry rest ih =>
      obtain ⟨name, value⟩ := entry
      rw [itemsOf?, Fields.get?]
      split
      · rfl
      · exact ih

/-- What a schema is that has been read from fields. -/
theorem ofJson?_object (fields : Fields Json) :
    ofJson? (.object fields)
      = some ⟨textAt "type" fields,
          (Fields.get? "items" fields).bind ofJson?,
          textAt "$ref" fields, textAt "description" fields,
          Fields.without keywords fields⟩ := by
  rw [ofJson?, itemsOf?_eq]

/-- A schema that is read from JSON with distinct names is proper. -/
theorem proper_of_ofJson? {value : Json} (hdistinct : value.Distinct)
    {s : Schema} (h : ofJson? value = some s) : s.Proper := by
  induction hdistinct generalizing s with
  | object hnodup hvalues ih =>
      rw [ofJson?_object] at h
      cases h
      refine .intro ?_ (Fields.names_without_nodup _ hnodup) ?_ ?_
      · intro name hname
        exact Fields.not_mem_of_mem_names_without hname
      · intro entry hentry
        exact hvalues entry (List.mem_filter.1 hentry).1
      · intro t ht
        obtain ⟨value, hget, hread⟩ := Option.bind_eq_some_iff.1 ht
        exact ih _ (Fields.mem_of_get? hget) hread
  | _ => cases h

theorem empty_proper : empty.Proper := by
  refine .intro ?_ ?_ ?_ ?_
  · intro name hname
    cases hname
  · exact List.nodup_nil
  · intro entry hentry
    cases hentry
  · intro t ht
    cases ht

/-- A schema read from JSON with distinct names is proper, also where the
JSON is no schema. -/
theorem ofJson_proper {value : Json} (hdistinct : value.Distinct) :
    (ofJson value).Proper := by
  rw [ofJson]
  cases hread : ofJson? value with
  | none => exact empty_proper
  | some s => exact proper_of_ofJson? hdistinct hread

-- ================================================================ writing

/-- How a schema is written, whether it has items or not. -/
theorem toJson_eq (s : Schema) :
    s.toJson = .object (s.fieldsWith (s.items.map toJson)) := by
  obtain ⟨type, items, reference, description, extensions⟩ := s
  cases items with
  | none => rw [toJson]; rfl
  | some t => rw [toJson]; rfl

/-- A text field is found under its key. -/
@[simp]
theorem get?_textField (name key : String) (text : Option String) :
    Fields.get? name (textField key text)
      = if key = name then text.map Json.string else none := by
  cases text with
  | none => simp [textField, Fields.get?]
  | some s => simp [textField, Fields.get?]

/-- A text that is written is read as text. -/
@[simp]
theorem bind_string?_map_string (text : Option String) :
    (text.map Json.string).bind Json.string? = text := by
  cases text with
  | none => rfl
  | some s => rfl

theorem without_textField {gone : List String} {key : String}
    (h : key ∈ gone) (text : Option String) :
    Fields.without gone (textField key text) = [] := by
  cases text with
  | none => rfl
  | some s => simp [Fields.without, textField, h]

theorem names_textField_sublist (key : String) (text : Option String) :
    (Fields.names (textField key text)).Sublist [key] := by
  cases text with
  | none => exact List.nil_sublist _
  | some s => exact List.Sublist.refl _

theorem distinct_of_mem_textField {key : String} {text : Option String}
    {entry : String × Json} (h : entry ∈ textField key text) :
    entry.2.Distinct := by
  obtain ⟨s, -, rfl⟩ := Option.map_eq_some_iff.1 (Option.mem_toList.1 h)
  exact .string s

/-- A recognised key is found among the written fields as if there were
no extensions. -/
theorem get?_fieldsWith {s : Schema} (h : s.Proper) (items : Option Json)
    {name : String} (hname : name ∈ keywords) :
    Fields.get? name (s.fieldsWith items)
      = Fields.get? name (textField "type" s.type
          ++ (items.map fun value => ("items", value)).toList
          ++ textField "$ref" s.reference
          ++ textField "description" s.description) := by
  have hext : name ∉ Fields.names s.extensions :=
    fun hmem => h.not_mem_keywords name hmem hname
  rw [fieldsWith, Fields.get?_append, Fields.get?_of_not_mem hext,
    Option.or_none]

theorem get?_items_fieldsWith {s : Schema} (h : s.Proper)
    (items : Option Json) :
    Fields.get? "items" (s.fieldsWith items) = items := by
  rw [get?_fieldsWith h items (by decide)]
  cases items with
  | none => simp [Fields.get?_append]
  | some value => simp [Fields.get?_append, Fields.get?]

theorem get?_description_fieldsWith {s : Schema} (h : s.Proper)
    (items : Option Json) :
    Fields.get? "description" (s.fieldsWith items)
      = s.description.map Json.string := by
  rw [get?_fieldsWith h items (by decide)]
  cases items with
  | none => simp [Fields.get?_append]
  | some value => simp [Fields.get?_append, Fields.get?]

theorem textAt_fieldsWith {s : Schema} (h : s.Proper)
    (items : Option Json) :
    textAt "type" (s.fieldsWith items) = s.type
      ∧ textAt "$ref" (s.fieldsWith items) = s.reference
      ∧ textAt "description" (s.fieldsWith items) = s.description := by
  have hget : ∀ name ∈ keywords, Fields.get? name (s.fieldsWith items)
      = _ := fun name hname => get?_fieldsWith h items hname
  rw [textAt, textAt, textAt, hget "type" (by decide),
    hget "$ref" (by decide), hget "description" (by decide)]
  cases items with
  | none => simp [Fields.get?_append]
  | some value => simp [Fields.get?_append, Fields.get?]

/-- Without the recognised keys the extensions are what remains of the
written fields. -/
theorem without_fieldsWith {s : Schema} (h : s.Proper)
    (items : Option Json) :
    Fields.without keywords (s.fieldsWith items) = s.extensions := by
  have hitems : Fields.without keywords
      (items.map fun value => ("items", value)).toList = [] := by
    cases items with
    | none => rfl
    | some value => rfl
  rw [fieldsWith, Fields.without_append, Fields.without_append,
    Fields.without_append, Fields.without_append,
    without_textField (by decide), hitems, without_textField (by decide),
    without_textField (by decide),
    Fields.without_of_forall_not_mem h.not_mem_keywords]
  rfl

-- ============================================================= round trip

/-- A proper schema is read back from what it is written as. -/
theorem Proper.ofJson?_toJson {s : Schema} (h : s.Proper) :
    ofJson? s.toJson = some s := by
  induction h with
  | @intro s hkeywords hnodup hvalues hitems ih =>
      have hproper : s.Proper := .intro hkeywords hnodup hvalues hitems
      have hback : (s.items.map toJson).bind ofJson? = s.items := by
        cases hs : s.items with
        | none => rfl
        | some t => exact ih t hs
      obtain ⟨htype, hreference, hdescription⟩ :=
        textAt_fieldsWith hproper (s.items.map toJson)
      rw [toJson_eq, ofJson?_object, htype, hreference, hdescription,
        get?_items_fieldsWith hproper, hback, without_fieldsWith hproper]
      cases s
      rfl

/-- Reading a written schema back cannot fall back on the empty one. -/
theorem Proper.ofJson_toJson {s : Schema} (h : s.Proper) :
    ofJson s.toJson = s := by
  rw [ofJson, h.ofJson?_toJson]
  rfl

/-- A proper schema is written with distinct names at every depth. -/
theorem Proper.toJson_distinct {s : Schema} (h : s.Proper) :
    s.toJson.Distinct := by
  induction h with
  | @intro s hkeywords hnodup hvalues _ ih =>
      rw [toJson_eq, fieldsWith]
      refine .object ?_ ?_
      · -- the recognised keys come in their order, at most once each
        have hfront : (Fields.names (textField "type" s.type
            ++ ((s.items.map toJson).map fun value =>
                ("items", value)).toList
            ++ textField "$ref" s.reference
            ++ textField "description" s.description)).Sublist
            keywords := by
          simp only [Fields.names, List.map_append]
          have hitems : (((s.items.map toJson).map fun value =>
              ("items", value)).toList.map Prod.fst).Sublist
              ["items"] := by
            cases s.items with
            | none => exact List.nil_sublist _
            | some t => exact List.Sublist.refl _
          exact (((names_textField_sublist "type" s.type).append
            hitems).append (names_textField_sublist "$ref" _)).append
            (names_textField_sublist "description" _)
        rw [Fields.names, List.map_append]
        refine List.nodup_append.2
          ⟨List.Nodup.sublist hfront (by decide), hnodup, ?_⟩
        intro name hname other hother heq
        exact hkeywords other hother (heq ▸ hfront.subset hname)
      · intro entry hentry
        simp only [List.mem_append] at hentry
        rcases hentry with (((htype | hitems) | href) | hdesc) | hext
        · exact distinct_of_mem_textField htype
        · obtain ⟨value, hvalue, rfl⟩ := Option.map_eq_some_iff.1
            (Option.mem_toList.1 hitems)
          obtain ⟨t, ht, rfl⟩ := Option.map_eq_some_iff.1 hvalue
          exact ih t ht
        · exact distinct_of_mem_textField href
        · exact distinct_of_mem_textField hdesc
        · exact hvalues entry hext

end SchemaPress.Schema
