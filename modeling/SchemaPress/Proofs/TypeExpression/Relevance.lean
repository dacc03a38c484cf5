/-
What of a value matters to its type expression.

A template may hand any value to the helpers that write types. Of an
object they look at three fields, and at each only if it has the right
shape: `type` and `$ref` as far as they are text, `items` as far as it is
an object, of which the same three matter again. Values that agree so far
are `Alike`, whatever else they hold, in whatever order; and what is no
object is alike to an object without fields.

Alike values are read as schemas that are the same but for what does not
matter (`alike_iff`). What does not matter can be taken away: the bare
schema has neither description nor extensions, at any depth of its items,
and still the shape of the schema (`ofSchema_bare`). So alike values have
the same type expression. The relation is as wide as it can be said to be
without naming types, since every value is alike to what is written for
its bare schema.
-/
import SchemaPress.Proofs.Model.RoundTrip
import SchemaPress.Proofs.TypeExpression.ClosedForm

namespace SchemaPress

open Template (Found Helper)

-- ============================================================= vocabulary

/-- Under a name, two values have the same text, or neither has any. -/
def Json.SameText (name : String) (x y : Json) : Prop :=
  ∀ text, x.field? name = some (.string text)
    ↔ y.field? name = some (.string text)

namespace Schema

/-- Values that agree in what matters to a type. -/
inductive Alike : Json → Json → Prop
  /-- Neither has an object for its items. -/
  | leaf {x y : Json} (htype : x.SameText "type" y)
      (hreference : x.SameText "$ref" y)
      (hx : ∀ fields, x.field? "items" ≠ some (.object fields))
      (hy : ∀ fields, y.field? "items" ≠ some (.object fields)) :
      Alike x y
  /-- Both have objects for their items, and these are alike. -/
  | items {x y : Json} {xs ys : Fields Json}
      (htype : x.SameText "type" y) (hreference : x.SameText "$ref" y)
      (hx : x.field? "items" = some (.object xs))
      (hy : y.field? "items" = some (.object ys))
      (hitems : Alike (.object xs) (.object ys)) : Alike x y

/-- A schema without anything that does not matter to its type. -/
def bare : Schema → Schema
  | ⟨type, none, reference, _, _⟩ => ⟨type, none, reference, none, []⟩
  | ⟨type, some items, reference, _, _⟩ =>
      ⟨type, some items.bare, reference, none, []⟩

theorem bare_eq (s : Schema) :
    s.bare = ⟨s.type, s.items.map bare, s.reference, none, []⟩ := by
  obtain ⟨type, items, reference, description, extensions⟩ := s
  cases items with
  | none => rw [bare]; rfl
  | some t => rw [bare]; rfl

-- ================================================================= reading

variable {value x y : Json}

/-- What is read from a value, looked up field by field. -/
theorem ofJson_eq (value : Json) :
    (ofJson value).type = (value.field? "type").bind Json.string?
      ∧ (ofJson value).reference = (value.field? "$ref").bind Json.string?
      ∧ (ofJson value).items = (value.field? "items").bind ofJson? := by
  cases value with
  | object fields =>
      rw [ofJson, ofJson?_object]
      exact ⟨rfl, rfl, rfl⟩
  | _ => exact ⟨rfl, rfl, rfl⟩

theorem bind_string?_eq_some_iff {found : Option Json} {text : String} :
    found.bind Json.string? = some text ↔ found = some (.string text) := by
  constructor
  · intro h
    obtain ⟨value, rfl, htext⟩ := Option.bind_eq_some_iff.1 h
    cases value with
    | string s =>
        cases htext
        rfl
    | _ => cases htext
  · rintro rfl
    rfl

/-- The items are read from an object and from nothing else. -/
theorem items_ofJson_eq_some_iff {t : Schema} :
    (ofJson value).items = some t
      ↔ ∃ fields, value.field? "items" = some (.object fields)
          ∧ ofJson (.object fields) = t := by
  rw [(ofJson_eq value).2.2, Option.bind_eq_some_iff]
  constructor
  · rintro ⟨items, hfield, hread⟩
    cases items with
    | object fields =>
        refine ⟨fields, hfield, ?_⟩
        rw [ofJson, hread, Option.getD_some]
    | _ => cases hread
  · rintro ⟨fields, hfield, rfl⟩
    refine ⟨_, hfield, ?_⟩
    rw [ofJson, ofJson?_object, Option.getD_some]

theorem items_ofJson_eq_none_iff :
    (ofJson value).items = none
      ↔ ∀ fields, value.field? "items" ≠ some (.object fields) := by
  rw [Option.eq_none_iff_forall_ne_some]
  constructor
  · intro h fields hfield
    exact h _ (items_ofJson_eq_some_iff.2 ⟨fields, hfield, rfl⟩)
  · intro h t ht
    obtain ⟨fields, hfield, -⟩ := items_ofJson_eq_some_iff.1 ht
    exact h fields hfield

/-- Values have the same text under a name if what is read as text there
is the same. -/
theorem sameText_iff {name : String} : x.SameText name y
    ↔ (x.field? name).bind Json.string?
      = (y.field? name).bind Json.string? := by
  rw [Option.ext_iff]
  simp only [bind_string?_eq_some_iff]
  rfl

theorem sameText_type_iff :
    x.SameText "type" y ↔ (ofJson x).type = (ofJson y).type := by
  rw [sameText_iff, (ofJson_eq x).1, (ofJson_eq y).1]

theorem sameText_reference_iff :
    x.SameText "$ref" y
      ↔ (ofJson x).reference = (ofJson y).reference := by
  rw [sameText_iff, (ofJson_eq x).2.1, (ofJson_eq y).2.1]

-- ========================================================== bare schemas

/-- A schema and its bare schema have the same shape. -/
theorem ofSchema_bare (s : Schema) :
    Shape.ofSchema s.bare = Shape.ofSchema s := by
  induction s using induct_items with
  | step s ih =>
      by_cases htype : s.type = some "array"
      · have hbare : s.bare.type = some "array" := by rw [bare_eq, htype]
        rw [Shape.ofSchema_of_array hbare, Shape.ofSchema_of_array htype,
          bare_eq]
        cases hitems : s.items with
        | none => rfl
        | some t =>
            rw [Option.map_some, Option.elim_some, Option.elim_some,
              ih t hitems]
      · have hbare : s.bare.type ≠ some "array" := by rwa [bare_eq]
        rw [Shape.ofSchema_of_ne_array hbare,
          Shape.ofSchema_of_ne_array htype, bare_eq]
        rfl

theorem bare_bare (s : Schema) : s.bare.bare = s.bare := by
  induction s using induct_items with
  | step s ih =>
      rw [bare_eq s, bare_eq]
      cases hitems : s.items with
      | none => rfl
      | some t => simp [ih t hitems]

/-- A bare schema has no extensions that could be taken for more. -/
theorem bare_proper (s : Schema) : s.bare.Proper := by
  induction s using induct_items with
  | step s ih =>
      rw [bare_eq]
      refine .intro ?_ List.nodup_nil ?_ ?_
      · rintro name ⟨⟩
      · rintro entry ⟨⟩
      · intro u hu
        obtain ⟨t, ht, rfl⟩ := Option.map_eq_some_iff.1 hu
        exact ih t ht

/-- Values are alike exactly if the schemas that are read from them are
the same when bare. -/
theorem alike_iff : Alike x y ↔ (ofJson x).bare = (ofJson y).bare := by
  constructor
  · intro h
    induction h with
    | leaf htype hreference hx hy =>
        rw [bare_eq, bare_eq, sameText_type_iff.1 htype,
          sameText_reference_iff.1 hreference, items_ofJson_eq_none_iff.2 hx,
          items_ofJson_eq_none_iff.2 hy]
    | items htype hreference hx hy _ ih =>
        rw [bare_eq, bare_eq, sameText_type_iff.1 htype,
          sameText_reference_iff.1 hreference,
          items_ofJson_eq_some_iff.2 ⟨_, hx, rfl⟩,
          items_ofJson_eq_some_iff.2 ⟨_, hy, rfl⟩, Option.map_some,
          Option.map_some, ih]
  · intro h
    -- on the schema that is read from the one, for all that it is read from
    generalize hs : ofJson x = s at h
    induction s using induct_items generalizing x y with
    | step s ih =>
        subst hs
        rw [bare_eq, bare_eq, mk.injEq] at h
        obtain ⟨htype, hitems, hreference, -⟩ := h
        have htype := sameText_type_iff.2 htype
        have hreference := sameText_reference_iff.2 hreference
        cases hx : (ofJson x).items with
        | none =>
            rw [hx, Option.map_none, eq_comm, Option.map_eq_none_iff]
              at hitems
            exact .leaf htype hreference (items_ofJson_eq_none_iff.1 hx)
              (items_ofJson_eq_none_iff.1 hitems)
        | some t =>
            rw [hx, Option.map_some, eq_comm, Option.map_eq_some_iff]
              at hitems
            obtain ⟨u, hy, hbare⟩ := hitems
            obtain ⟨xs, hxs, ht⟩ := items_ofJson_eq_some_iff.1 hx
            obtain ⟨ys, hys, hu⟩ := items_ofJson_eq_some_iff.1 hy
            refine .items htype hreference hxs hys (ih t hx ht ?_)
            rw [hu, hbare]

/-- Alike values have the same type expression. -/
theorem Alike.typeOfSchema_eq (h : Alike x y) (language : Language) :
    language.typeOfSchema (ofJson x) = language.typeOfSchema (ofJson y) := by
  rw [Language.typeOfSchema, ← ofSchema_bare, alike_iff.1 h,
    ofSchema_bare, Language.typeOfSchema]

/-- A value is alike to what is written for its bare schema. -/
theorem alike_bare (value : Json) :
    Alike value (ofJson value).bare.toJson := by
  rw [alike_iff, (bare_proper _).ofJson_toJson, bare_bare]

end Schema

namespace Template.Helper

/-- Whatever a helper that writes types is given, it writes the same for
all values that are alike, and it does not fail. A value is alike to what
is left of it without the fields that do not matter, so none of these has
a say, at any depth. -/
theorem value_typeName_of_alike :
    (∀ x y, Schema.Alike x y → ∀ language : Language, ∃ text,
      language.typeOfSchema (Schema.ofJson x) = text
      ∧ language.typeOfSchema (Schema.ofJson y) = text
      ∧ ∀ (first : Found) (rest : List Found) (options : Fields Found),
          first.json = x ∨ first.json = y →
          (Helper.typeName language).value ⟨first :: rest, options⟩
            = .ok (.string text))
    ∧ ∀ value,
        Schema.Alike value (Schema.ofJson value).bare.toJson := by
  refine ⟨?_, Schema.alike_bare⟩
  intro x y h language
  have hsame := h.typeOfSchema_eq language
  refine ⟨_, rfl, hsame.symm, ?_⟩
  intro first rest options hfirst
  have hvalue : (Helper.typeName language).value ⟨first :: rest, options⟩
      = .ok (.string (language.typeOfSchema
          (Schema.ofJson first.json))) := rfl
  rcases hfirst with hx | hy
  · rw [hvalue, hx]
  · rw [hvalue, hy, hsame]

/-- A list of a model. -/
def plainList : Json :=
  .object
    [("type", .string "array"),
      ("items", .object [("$ref", .string "#/Tag")])]

/-- The same list, its fields in another order, with others that do not
matter, and with fields of the wrong shape in the list and in its
items. -/
def disguisedList : Json :=
  .object
    [("format", .string "array"), ("$ref", .array [.string "#/Other"]),
      ("items", .object
        [("items", .string "none"), ("description", .null),
          ("$ref", .string "#/Tag"),
          ("type", .array [.string "string"])]),
      ("type", .string "array")]

/-- The disguise makes no difference. -/
theorem value_typeName_of_alike_disguised :
    Schema.Alike plainList disguisedList
      ∧ (Helper.typeName .java).value ⟨[Found.ofValue plainList], []⟩
        = .ok (.string "List<Tag>")
      ∧ (Helper.typeName .java).value ⟨[Found.ofValue disguisedList], []⟩
        = .ok (.string "List<Tag>") := by
  have halike : Schema.Alike plainList disguisedList := by
    rw [Schema.alike_iff]
    rfl
  obtain ⟨text, hplain, -, hvalue⟩ :=
    value_typeName_of_alike.1 _ _ halike .java
  have htext : text = "List<Tag>" := by
    rw [← hplain]
    decide
  subst htext
  exact ⟨halike, hvalue _ _ _ (.inl rfl), hvalue _ _ _ (.inr rfl)⟩

end Template.Helper

end SchemaPress
