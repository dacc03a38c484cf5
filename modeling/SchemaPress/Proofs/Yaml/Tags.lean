/-
Trees without the tags on their values.

A tag says what a value is meant to be, and nothing that is read from a
tree asks for it. `withoutTags` erases the tags on all values, at every
depth: around the root, around what stands under a key, around items, and
one behind the other. A tag on a key is not erased, for it has a say: a
key with a tag has no text. Only what stands inside such a key are values
again.

Reading does two things with a tree, and for either of them the tags
might as well not be there. Making keys text strips them on its way
(`withTextKeys_withoutTags`), and looking up looks through them, so that
it finds the same value, with or without its tags
(`get?_withoutTags`).
-/
import SchemaPress.Proofs.Yaml.Declaration

namespace SchemaPress.Yaml.Node

-- ================================================================ erasing

mutual

/-- A tree without the tags on its values. -/
def withoutTags : Node → Node
  | .tagged _ content => content.withoutTags
  | .sequence items => .sequence (itemsWithoutTags items)
  | .mapping entries => .mapping (entriesWithoutTags entries)
  | .null => .null
  | .bool b => .bool b
  | .number n => .number n
  | .string s => .string s

/-- `withoutTags` on every item. -/
def itemsWithoutTags : List Node → List Node
  | [] => []
  | x :: xs => x.withoutTags :: itemsWithoutTags xs

/-- `withoutTags` on every value. -/
def entriesWithoutTags : List (Node × Node) → List (Node × Node)
  | [] => []
  | (key, x) :: xs =>
      (key.keyWithoutTags, x.withoutTags) :: entriesWithoutTags xs

/-- A key without the tags on the values inside of it; its own stay. -/
def keyWithoutTags : Node → Node
  | .tagged tag content => .tagged tag content.keyWithoutTags
  | .sequence items => .sequence (itemsWithoutTags items)
  | .mapping entries => .mapping (entriesWithoutTags entries)
  | .null => .null
  | .bool b => .bool b
  | .number n => .number n
  | .string s => .string s

end

/-- Trees that are the same but for the tags on their values. -/
def SameButTags (x y : Node) : Prop := x.withoutTags = y.withoutTags

-- =================================================================== keys

/-- A key has the text that it had. -/
theorem keyText?_keyWithoutTags (key : Node) :
    key.keyWithoutTags.keyText? = key.keyText? := by
  cases key with
  | bool b => cases b <;> rfl
  | _ => rfl

-- ======================================================= making keys text

mutual

/-- Making keys text forgets the tags on values anyway. -/
theorem withTextKeys_withoutTags :
    ∀ node : Node, node.withoutTags.withTextKeys = node.withTextKeys
  | .null => rfl
  | .bool _ => rfl
  | .number _ => rfl
  | .string _ => rfl
  | .tagged _ content => by
      rw [withoutTags, withTextKeys]
      exact withTextKeys_withoutTags content
  | .sequence items => by
      rw [withoutTags, withTextKeys, withTextKeys,
        itemsWithTextKeys_itemsWithoutTags items]
  | .mapping entries => by
      rw [withoutTags, withTextKeys, withTextKeys,
        entriesWithTextKeys_entriesWithoutTags entries]

theorem itemsWithTextKeys_itemsWithoutTags : ∀ items : List Node,
    itemsWithTextKeys (itemsWithoutTags items) = itemsWithTextKeys items
  | [] => rfl
  | x :: rest => by
      rw [itemsWithoutTags, itemsWithTextKeys, itemsWithTextKeys,
        withTextKeys_withoutTags x,
        itemsWithTextKeys_itemsWithoutTags rest]

theorem entriesWithTextKeys_entriesWithoutTags :
    ∀ entries : List (Node × Node),
      entriesWithTextKeys (entriesWithoutTags entries)
        = entriesWithTextKeys entries
  | [] => rfl
  | (key, x) :: rest => by
      rw [entriesWithoutTags, entriesWithTextKeys, entriesWithTextKeys,
        keyText?_keyWithoutTags, withTextKeys_withoutTags x,
        entriesWithTextKeys_entriesWithoutTags rest]

end

-- ============================================================ looking up

/-- A mapping is one without its tags, too. -/
theorem entries?_withoutTags :
    ∀ node : Node,
      node.withoutTags.entries? = node.entries?.map entriesWithoutTags
  | .null => rfl
  | .bool _ => rfl
  | .number _ => rfl
  | .string _ => rfl
  | .sequence _ => by rw [withoutTags]; rfl
  | .mapping _ => by rw [withoutTags]; rfl
  | .tagged _ content => by
      rw [withoutTags]
      exact entries?_withoutTags content

/-- What stands under a key is what stood there, without its tags. -/
theorem valueOf?_entriesWithoutTags (key : String)
    (entries : List (Node × Node)) :
    valueOf? key (entriesWithoutTags entries)
      = (valueOf? key entries).map withoutTags := by
  induction entries with
  | nil => rfl
  | cons entry rest ih =>
      obtain ⟨k, x⟩ := entry
      rw [entriesWithoutTags]
      cases k with
      | string name =>
          rw [keyWithoutTags, valueOf?, valueOf?, ih]
          split
          · rfl
          · rfl
      | _ => exact ih

/-- Looking up finds what it finds in the tree with its tags, but for
those on it. -/
theorem get?_withoutTags (key : String) (node : Node) :
    node.withoutTags.get? key = (node.get? key).map withoutTags := by
  rw [get?, get?, entries?_withoutTags]
  cases node.entries? with
  | none => rfl
  | some entries => exact valueOf?_entriesWithoutTags key entries

/-- Trees that are the same but for tags have the same under a key, again
but for tags. -/
theorem SameButTags.get? {x y : Node} (h : SameButTags x y)
    (key : String) :
    Option.Rel SameButTags (x.get? key) (y.get? key) := by
  have hmaps : (x.get? key).map withoutTags
      = (y.get? key).map withoutTags := by
    rw [← get?_withoutTags, ← get?_withoutTags, h]
  cases hx : x.get? key with
  | none =>
      rw [hx] at hmaps
      rw [Option.map_eq_none_iff.1 hmaps.symm]
      exact .none
  | some v =>
      rw [hx] at hmaps
      obtain ⟨w, hw, heq⟩ := Option.map_eq_some_iff.1 hmaps.symm
      rw [hw]
      exact .some heq.symm

/-- Trees that are the same but for tags have the same text keys. -/
theorem SameButTags.withTextKeys_eq {x y : Node} (h : SameButTags x y) :
    x.withTextKeys = y.withTextKeys := by
  rw [← withTextKeys_withoutTags x, h, withTextKeys_withoutTags y]

end SchemaPress.Yaml.Node
