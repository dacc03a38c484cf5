/-
What a tree declares of a property.

`DeclaredIn` says of entries and a schema that the schema is what the
entries declare. A recognised key is there exactly where its name stands
for what it asks for, a text or a mapping; what it stands for otherwise
is not to be found in the schema, and no other key is lost. The items are
once more what the entries below declare, so all of this holds at every
depth.

Whatever is read from entries is what they declare
(`declaredIn_of_ofJson?`). The induction is on the schema, along its
items: a schema with items has been read from entries in which the name
of the items stands for a mapping, and the items from the entries of
that.
-/
import SchemaPress.Proofs.Schema.RoundTrip
import SchemaPress.Proofs.Yaml.Declaration

namespace SchemaPress.Schema

open Yaml (Node)
open Yaml.Node (jsonFieldsOf DeclaresText DeclaresMapping DeclaresFields
  AsJson)

variable {entries : List (Node × Node)} {s : Schema}

-- ============================================================= vocabulary

/-- What entries declare of a property, but for its items. -/
structure SaidIn (entries : List (Node × Node)) (s : Schema) : Prop where
  type_iff : ∀ text,
    s.type = some text ↔ DeclaresText entries "type" text
  reference_iff : ∀ text,
    s.reference = some text ↔ DeclaresText entries "$ref" text
  description_iff : ∀ text,
    s.description = some text ↔ DeclaresText entries "description" text
  extensions : DeclaresFields entries keywords AsJson s.extensions

/-- What entries declare of a property, at every depth of its items. -/
inductive DeclaredIn : List (Node × Node) → Schema → Prop
  | leaf {entries : List (Node × Node)} {s : Schema}
      (hown : SaidIn entries s) (hitems : s.items = none)
      (hnone : ∀ inner, ¬ DeclaresMapping entries "items" inner) :
      DeclaredIn entries s
  | items {entries inner : List (Node × Node)} {s t : Schema}
      (hown : SaidIn entries s) (hitems : s.items = some t)
      (hinner : DeclaresMapping entries "items" inner)
      (ht : DeclaredIn inner t) : DeclaredIn entries s

/-- What a tree declares of a property: what the entries of a mapping
declare, or nothing where there is no mapping. -/
def DeclaredBy (node : Node) (s : Schema) : Prop :=
  (∃ entries, node.untagged = .mapping entries ∧ DeclaredIn entries s)
  ∨ ((∀ entries, node.untagged ≠ .mapping entries) ∧ s = empty)

-- ================================================================ reading

/-- A text is read under a name that stands for it. -/
theorem textAt_jsonFieldsOf_eq_some_iff {name text : String} :
    textAt name (jsonFieldsOf entries) = some text
      ↔ DeclaresText entries name text := by
  unfold textAt DeclaresText
  rw [Option.bind_eq_some_iff]
  constructor
  · rintro ⟨value, hget, htext⟩
    obtain ⟨node, hnode, rfl⟩ :=
      Yaml.Node.get?_jsonFieldsOf_eq_some_iff.1 hget
    refine ⟨node, hnode, Yaml.Node.json_eq_string_iff.1 ?_⟩
    cases hvalue : node.withTextKeys.toJson with
    | string s =>
        rw [hvalue] at htext
        cases htext
        rfl
    | _ => rw [hvalue] at htext; cases htext
  · rintro ⟨node, hnode, htext⟩
    refine ⟨_, Yaml.Node.get?_jsonFieldsOf_eq_some_iff.2
      ⟨node, hnode, rfl⟩, ?_⟩
    rw [Yaml.Node.json_eq_string_iff.2 htext]
    rfl

/-- Nothing but a mapping is read as a schema. -/
theorem ofJson?_json_eq_some_iff {node : Node} :
    ofJson? node.withTextKeys.toJson = some s
      ↔ ∃ entries, node.untagged = .mapping entries
          ∧ ofJson? (.object (jsonFieldsOf entries)) = some s := by
  constructor
  · intro h
    cases hvalue : node.withTextKeys.toJson with
    | object fields =>
        obtain ⟨entries, hmapping, rfl⟩ :=
          Yaml.Node.json_eq_object_iff.1 hvalue
        rw [hvalue] at h
        exact ⟨entries, hmapping, h⟩
    | _ => rw [hvalue] at h; cases h
  · rintro ⟨entries, hmapping, h⟩
    rw [Yaml.Node.json_eq_object_iff.2 ⟨entries, hmapping, rfl⟩, h]

/-- The items are read from the mapping that their name stands for. -/
theorem items_eq_some_iff {t : Schema} :
    (Fields.get? "items" (jsonFieldsOf entries)).bind ofJson? = some t
      ↔ ∃ inner, DeclaresMapping entries "items" inner
          ∧ ofJson? (.object (jsonFieldsOf inner)) = some t := by
  rw [Option.bind_eq_some_iff]
  constructor
  · rintro ⟨value, hget, hread⟩
    obtain ⟨node, hnode, rfl⟩ :=
      Yaml.Node.get?_jsonFieldsOf_eq_some_iff.1 hget
    obtain ⟨inner, hmapping, hread⟩ := ofJson?_json_eq_some_iff.1 hread
    exact ⟨inner, ⟨node, hnode, hmapping⟩, hread⟩
  · rintro ⟨inner, ⟨node, hnode, hmapping⟩, hread⟩
    exact ⟨_, Yaml.Node.get?_jsonFieldsOf_eq_some_iff.2
      ⟨node, hnode, rfl⟩, ofJson?_json_eq_some_iff.2
      ⟨inner, hmapping, hread⟩⟩

/-- What is read from entries is what they declare, its items apart. -/
theorem saidIn_of_ofJson?
    (h : ofJson? (.object (jsonFieldsOf entries)) = some s) :
    SaidIn entries s := by
  rw [ofJson?_object] at h
  cases h
  exact
    { type_iff := fun _ => textAt_jsonFieldsOf_eq_some_iff
      reference_iff := fun _ => textAt_jsonFieldsOf_eq_some_iff
      description_iff := fun _ => textAt_jsonFieldsOf_eq_some_iff
      extensions := Yaml.Node.declaresFields_without entries keywords }

/-- What is read from entries is what they declare. -/
theorem declaredIn_of_ofJson? : ∀ {s : Schema} {entries},
    ofJson? (.object (jsonFieldsOf entries)) = some s →
    DeclaredIn entries s
  | ⟨_, none, _, _, _⟩, entries, h => by
      have hown := saidIn_of_ofJson? h
      rw [ofJson?_object, Option.some.injEq, mk.injEq] at h
      obtain ⟨-, hitems, -⟩ := h
      refine .leaf hown rfl fun inner hinner => ?_
      have hread := items_eq_some_iff.2 ⟨inner, hinner,
        ofJson?_object (jsonFieldsOf inner)⟩
      rw [hitems] at hread
      cases hread
  | ⟨_, some t, _, _, _⟩, entries, h => by
      have hown := saidIn_of_ofJson? h
      rw [ofJson?_object, Option.some.injEq, mk.injEq] at h
      obtain ⟨-, hitems, -⟩ := h
      obtain ⟨inner, hinner, hread⟩ := items_eq_some_iff.1 hitems
      exact .items hown rfl hinner (declaredIn_of_ofJson? hread)

/-- What is read from a tree is what the tree declares, mapping or
not. -/
theorem declaredBy_ofJson (node : Node) :
    DeclaredBy node (ofJson node.withTextKeys.toJson) := by
  rw [ofJson]
  cases hread : ofJson? node.withTextKeys.toJson with
  | some s =>
      obtain ⟨entries, hmapping, hread⟩ := ofJson?_json_eq_some_iff.1 hread
      exact .inl ⟨entries, hmapping, declaredIn_of_ofJson? hread⟩
  | none =>
      refine .inr ⟨fun entries hmapping => ?_, rfl⟩
      have hsome := ofJson?_json_eq_some_iff.2 ⟨entries, hmapping,
        ofJson?_object (jsonFieldsOf entries)⟩
      rw [hread] at hsome
      cases hsome

end SchemaPress.Schema
