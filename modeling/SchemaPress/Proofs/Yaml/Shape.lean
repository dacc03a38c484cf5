/-
The shape of JSON, in trees and in values.

What a document says is read from JSON, so it matters what JSON a tree
can turn into. Two predicates carry it:

- `Node.JsonShaped`: a tree without tags whose keys are all text and
  distinct in every mapping, at every depth;
- `Json.Distinct`: a value whose objects have distinct names, at every
  depth.

Making keys text gives the first from any tree at all
(`withTextKeys_jsonShaped`): names may collide there, and the rule for
fields merges them. A tree that has the shape already stays as it is, so
the trees of that shape are just the ones that making keys text leaves
alone (`withTextKeys_eq_self_iff`). Turning such a tree into JSON gives
the second (`toJson_distinct`), since it takes the entries of a mapping
one by one.
-/
import SchemaPress.Proofs.Fields
import SchemaPress.Yaml.Json

namespace SchemaPress

/-- A value whose objects have pairwise distinct names, at every
depth. -/
inductive Json.Distinct : Json → Prop
  | null : Distinct .null
  | bool (value : Bool) : Distinct (.bool value)
  | number (value : Number) : Distinct (.number value)
  | string (value : String) : Distinct (.string value)
  | array {items : List Json} (hitems : ∀ x ∈ items, Distinct x) :
      Distinct (.array items)
  | object {fields : Fields Json} (hnodup : (Fields.names fields).Nodup)
      (hvalues : ∀ entry ∈ fields, Distinct entry.2) :
      Distinct (.object fields)

namespace Yaml.Node

/-- A tree that JSON can say: no tags, and keys that are pairwise
distinct texts, at every depth. -/
inductive JsonShaped : Node → Prop
  | null : JsonShaped .null
  | bool (value : Bool) : JsonShaped (.bool value)
  | number (value : Number) : JsonShaped (.number value)
  | string (value : String) : JsonShaped (.string value)
  | sequence {items : List Node} (hitems : ∀ x ∈ items, JsonShaped x) :
      JsonShaped (.sequence items)
  | mapping {fields : Fields Node} (hnodup : (Fields.names fields).Nodup)
      (hvalues : ∀ entry ∈ fields, JsonShaped entry.2) :
      JsonShaped (ofFields fields)

-- ======================================================= making keys text

mutual

/-- Every tree gets the shape of JSON when its keys are made text. -/
theorem withTextKeys_jsonShaped :
    ∀ node : Node, node.withTextKeys.JsonShaped
  | .null => .null
  | .bool b => .bool b
  | .number n => .number n
  | .string s => .string s
  | .tagged _ content => by
      rw [withTextKeys]
      exact withTextKeys_jsonShaped content
  | .sequence items => by
      rw [withTextKeys]
      exact .sequence (itemsWithTextKeys_jsonShaped items)
  | .mapping entries => by
      rw [withTextKeys]
      refine .mapping (Fields.names_ofList_nodup _) ?_
      intro entry hentry
      exact entriesWithTextKeys_jsonShaped entries entry
        (Fields.mem_of_mem_ofList hentry)

theorem itemsWithTextKeys_jsonShaped :
    ∀ items : List Node, ∀ x ∈ itemsWithTextKeys items, x.JsonShaped
  | [], x, hx => by cases hx
  | first :: rest, x, hx => by
      rw [itemsWithTextKeys] at hx
      rcases List.mem_cons.1 hx with rfl | hrest
      · exact withTextKeys_jsonShaped first
      · exact itemsWithTextKeys_jsonShaped rest x hrest

theorem entriesWithTextKeys_jsonShaped :
    ∀ entries : List (Node × Node),
      ∀ entry ∈ entriesWithTextKeys entries, entry.2.JsonShaped
  | [], entry, h => by cases h
  | (key, value) :: rest, entry, h => by
      rw [entriesWithTextKeys] at h
      split at h
      · rcases List.mem_cons.1 h with rfl | hrest
        · exact withTextKeys_jsonShaped value
        · exact entriesWithTextKeys_jsonShaped rest entry hrest
      · exact entriesWithTextKeys_jsonShaped rest entry h

end

/-- The items of a sequence get text keys one by one. -/
theorem itemsWithTextKeys_eq_map (items : List Node) :
    itemsWithTextKeys items = items.map withTextKeys := by
  induction items with
  | nil => rfl
  | cons x rest ih => rw [itemsWithTextKeys, ih, List.map_cons]

/-- Keys that are text stay what they are. -/
theorem entriesWithTextKeys_ofFields (fields : Fields Node) :
    entriesWithTextKeys (fields.map fun entry => (.string entry.1, entry.2))
      = Fields.mapValues withTextKeys fields := by
  induction fields with
  | nil => rfl
  | cons entry rest ih =>
      rw [List.map_cons, entriesWithTextKeys, ih]
      rfl

/-- A tree that has the shape of JSON already stays as it is. -/
theorem JsonShaped.withTextKeys_eq {node : Node} (h : node.JsonShaped) :
    node.withTextKeys = node := by
  induction h with
  | null => rfl
  | bool b => rfl
  | number n => rfl
  | string s => rfl
  | @sequence items hitems ih =>
      rw [withTextKeys, itemsWithTextKeys_eq_map, List.map_congr_left ih,
        List.map_id']
  | @mapping fields hnodup hvalues ih =>
      rw [ofFields, withTextKeys, entriesWithTextKeys_ofFields,
        Fields.mapValues_eq_self ih, Fields.ofList_of_nodup hnodup,
        ofFields]

/-- The trees that have the shape of JSON are those that making keys text
leaves as they are. -/
theorem withTextKeys_eq_self_iff {node : Node} :
    node.withTextKeys = node ↔ node.JsonShaped :=
  ⟨fun h => h ▸ withTextKeys_jsonShaped node, JsonShaped.withTextKeys_eq⟩

/-- Making keys text a second time changes nothing. -/
theorem withTextKeys_withTextKeys (node : Node) :
    node.withTextKeys.withTextKeys = node.withTextKeys :=
  withTextKeys_eq_self_iff.2 (withTextKeys_jsonShaped node)

-- ================================================================ as JSON

/-- The items of a sequence turn into JSON one by one. -/
theorem jsonItems_eq_map (items : List Node) :
    jsonItems items = items.map toJson := by
  induction items with
  | nil => rfl
  | cons x rest ih => rw [jsonItems, ih, List.map_cons]

/-- A mapping with text keys turns into an object with the same names in
the same order. -/
theorem toJson_ofFields (fields : Fields Node) :
    (ofFields fields).toJson = .object (Fields.mapValues toJson fields) := by
  rw [ofFields, toJson]
  congr 1
  induction fields with
  | nil => rfl
  | cons entry rest ih =>
      rw [List.map_cons, jsonFields, ih]
      rfl

/-- What has the shape of JSON turns into JSON with distinct names. -/
theorem toJson_distinct {node : Node} (h : node.JsonShaped) :
    node.toJson.Distinct := by
  induction h with
  | null => exact .null
  | bool b => exact .bool b
  | string s => exact .string s
  | number n =>
      cases n with
      | whole n => exact .number _
      | real x =>
          rw [toJson, jsonNumber]
          split
          · exact .number _
          · exact .null
  | sequence hitems ih =>
      rw [toJson, jsonItems_eq_map]
      refine .array ?_
      intro value hvalue
      obtain ⟨x, hx, rfl⟩ := List.mem_map.1 hvalue
      exact ih x hx
  | mapping hnodup hvalues ih =>
      rw [toJson_ofFields]
      refine .object ?_ ?_
      · rw [Fields.names_mapValues]
        exact hnodup
      · intro entry hentry
        obtain ⟨source, hsource, rfl⟩ := List.mem_map.1 hentry
        exact ih source hsource

end Yaml.Node

end SchemaPress
