/-
What of a document matters to its models.

Reading looks up `components` at the root, `schemas` in there, and of what
it finds it takes the tree with its keys made text. So two documents that
have at these two places what makes the same tree with text keys are read
alike, and fail alike (`ofDocument_congr`). All that is said here follows
from that:

- Tags on values do not matter. Looking up looks through them, and making
  keys text strips them.
- What stands beside `components`, and beside `schemas` in there, does not
  matter. It is not looked at.
- It does not matter whether keys have been made text before. That brings
  every tree into the shape of JSON and keeps it there, so doing it to the
  declarations once more changes nothing.
-/
import SchemaPress.Proofs.Model.Rejection
import SchemaPress.Proofs.Yaml.Tags

namespace SchemaPress

-- ======================================================== what may be there

section

variable {α β : Type} {R S : α → β → Prop}

/-- What may be there is related in more ways, too. -/
theorem rel_imp (h : ∀ a b, R a b → S a b) {x : Option α} {y : Option β}
    (hrel : Option.Rel R x y) : Option.Rel S x y := by
  cases hrel with
  | none => exact .none
  | some hab => exact .some (h _ _ hab)

/-- Lists that are related member by member are so at the front. -/
theorem rel_head? {xs : List α} {ys : List β} (h : List.Forall₂ R xs ys) :
    Option.Rel R xs.head? ys.head? := by
  cases h with
  | nil => exact .none
  | cons hfirst _ => exact .some hfirst

end

namespace Yaml.Node

variable {key : String} {same : Node → Node → Prop} {x y : Node}

-- ================================================================= beside

/-- The values under an untagged text key, in order. -/
def valuesUnder (key : String) (entries : List (Node × Node)) :
    List Node :=
  entries.filterMap (valueUnder? key)

/-- Trees that are the same, or mappings that differ at most in entries
with other keys than a given one; tags do not count. Whether the values
under that key are the same is up to `same`. -/
def SameUnder (key : String) (same : Node → Node → Prop) (x y : Node) :
    Prop :=
  SameButTags x y
  ∨ ∃ xs ys, x.untagged = .mapping xs ∧ y.untagged = .mapping ys
      ∧ List.Forall₂ same (valuesUnder key xs) (valuesUnder key ys)

theorem get?_eq_head?_valuesUnder {entries : List (Node × Node)}
    (h : x.untagged = .mapping entries) :
    x.get? key = (valuesUnder key entries).head? := by
  rw [get?, entries?_eq_some_iff.2 h, Option.bind_some,
    valueOf?_eq_findSome?, valuesUnder, List.head?_filterMap]

/-- What is looked up under the key is the same. -/
theorem SameUnder.get? (h : SameUnder key same x y)
    (hsame : ∀ v w, SameButTags v w → same v w) :
    Option.Rel same (x.get? key) (y.get? key) := by
  rcases h with hall | ⟨xs, ys, hx, hy, hvalues⟩
  · exact rel_imp hsame (hall.get? key)
  · rw [get?_eq_head?_valuesUnder hx, get?_eq_head?_valuesUnder hy]
    exact rel_head? hvalues

-- =============================================================== in place

/-- Entries with the value under a key changed, the first one if there
are several. -/
def changeValue (key : String) (change : Node → Node) :
    List (Node × Node) → List (Node × Node)
  | [] => []
  | entry :: rest =>
      match valueUnder? key entry with
      | some value => (.string key, change value) :: rest
      | none => entry :: changeValue key change rest

/-- A tree with the value under a key of a mapping changed. The tags
around the mapping stay, and so does what is no mapping. -/
def changeUnder (key : String) (change : Node → Node) : Node → Node
  | .tagged tag content => .tagged tag (changeUnder key change content)
  | .mapping entries => .mapping (changeValue key change entries)
  | node => node

theorem valueOf?_changeValue (key : String) (change : Node → Node)
    (entries : List (Node × Node)) :
    valueOf? key (changeValue key change entries)
      = (valueOf? key entries).map change := by
  simp only [valueOf?_eq_findSome?]
  induction entries with
  | nil => rfl
  | cons entry rest ih =>
      rw [changeValue, List.findSome?_cons]
      cases hvalue : valueUnder? key entry with
      | none =>
          dsimp only
          rw [List.findSome?_cons, hvalue]
          exact ih
      | some value =>
          dsimp only
          rw [List.findSome?_cons, valueUnder?_eq_some_iff.2 rfl]
          rfl

/-- What is looked up under the key is what was there, changed. -/
theorem get?_changeUnder (key : String) (change : Node → Node) :
    ∀ node : Node,
      (changeUnder key change node).get? key = (node.get? key).map change
  | .tagged _ content => by
      rw [changeUnder]
      exact get?_changeUnder key change content
  | .mapping entries => by
      rw [changeUnder]
      exact valueOf?_changeValue key change entries
  | .null => rfl
  | .bool _ => rfl
  | .number _ => rfl
  | .string _ => rfl
  | .sequence _ => rfl

end Yaml.Node

namespace Models

open Yaml (Node)
open Yaml.Node (SameButTags SameUnder changeUnder)

-- ================================================================ reading

/-- Only trees with text keys are read. -/
theorem ofDeclarations_congr {x y : Node}
    (h : x.withTextKeys = y.withTextKeys) :
    ofDeclarations x = ofDeclarations y := by
  rw [ofDeclarations, h, ofDeclarations]

/-- It is one and the same failure whether there is no mapping to read
from or whether it is left to reading to find out. -/
theorem ofDeclarations_of_no_mapping {schemas : Node}
    (h : ∀ entries, schemas.untagged ≠ .mapping entries) :
    ofDeclarations schemas = .error .missingSchemas := by
  rw [ofDeclarations, ← Yaml.Node.withTextKeys_untagged]
  cases huntagged : schemas.untagged with
  | tagged tag content =>
      exact absurd huntagged
        (Yaml.Node.untagged_ne_tagged tag content schemas)
  | mapping entries => exact absurd huntagged (h entries)
  | _ => rfl

/-- What two look-ups lead to is all there is to a document. -/
theorem ofDocument_eq (document : Node) :
    ofDocument document
      = match document.get? "components" with
        | none => .error .missingComponents
        | some components =>
            match components.get? "schemas" with
            | none => .error .missingSchemas
            | some schemas => ofDeclarations schemas := by
  cases hcomponents : document.get? "components" with
  | none =>
      exact ofDocument_of_lacks (Yaml.Node.get?_eq_none_iff.1 hcomponents)
  | some components =>
      rw [Yaml.Node.get?_eq_some_iff] at hcomponents
      dsimp only
      cases hschemas : components.get? "schemas" with
      | none =>
          exact ofDocument_of_holds_lacks hcomponents
            (Yaml.Node.get?_eq_none_iff.1 hschemas)
      | some schemas =>
          rw [Yaml.Node.get?_eq_some_iff] at hschemas
          by_cases hmapping : ∃ entries, schemas.untagged = .mapping entries
          · obtain ⟨entries, hentries⟩ := hmapping
            rw [ofDocument_of_holds hcomponents hschemas,
              Yaml.Node.entries?_eq_some_iff.2 hentries]
            rfl
          · have hnone : ∀ entries, schemas.untagged ≠ .mapping entries :=
              fun entries h => hmapping ⟨entries, h⟩
            dsimp only
            rw [ofDocument_of_no_mapping hcomponents hschemas hnone,
              ofDeclarations_of_no_mapping hnone]

/-- Documents are read alike if they agree on what stands under `schemas`
inside of `components`, once keys have been made text. -/
theorem ofDocument_congr {document other : Node}
    (h : Option.Rel
      (fun components components' => Option.Rel
        (fun schemas schemas' =>
          schemas.withTextKeys = schemas'.withTextKeys)
        (components.get? "schemas") (components'.get? "schemas"))
      (document.get? "components") (other.get? "components")) :
    ofDocument document = ofDocument other := by
  rw [ofDocument_eq document, ofDocument_eq other]
  generalize document.get? "components" = found at h
  generalize other.get? "components" = found' at h
  cases h with
  | none => rfl
  | @some components components' hinner =>
      dsimp only
      generalize components.get? "schemas" = schemas at hinner
      generalize components'.get? "schemas" = schemas' at hinner
      cases hinner with
      | none => rfl
      | some hschemas => exact ofDeclarations_congr hschemas

-- ================================================== tags, and what is beside

/-- Documents that are the same but for the tags on their values declare
the same models, or are rejected for the same reason. So do documents
that differ in what stands beside `components`, or beside `schemas` in
there, besides. -/
theorem ofDocument_eq_of_same :
    (∀ document other, SameButTags document other →
      ofDocument document = ofDocument other)
    ∧ ∀ document other,
        SameUnder "components" (SameUnder "schemas" SameButTags)
          document other →
        ofDocument document = ofDocument other := by
  have hbeside : ∀ document other,
      SameUnder "components" (SameUnder "schemas" SameButTags)
        document other →
      ofDocument document = ofDocument other := by
    intro document other h
    have hcomponents := h.get? fun _ _ hsame => .inl hsame
    refine ofDocument_congr (rel_imp ?_ hcomponents)
    intro components components' hinner
    have hschemas := hinner.get? fun _ _ hsame => hsame
    exact rel_imp (fun _ _ hsame => hsame.withTextKeys_eq) hschemas
  exact ⟨fun document other h => hbeside document other (.inl h), hbeside⟩

/-- What the misshapen document declares, without tags on values. -/
def bareEntries : List (Node × Node) :=
  [(.string "User", .mapping
      [(.string "title", .sequence [.null]),
        (.string "properties", .bool true),
        (.sequence [], .null),
        (.tagged "!key" (.string "type"), .mapping [(.null, .null)])]),
    (.number (.whole 404), .null)]

/-- A document that declares this, with other things beside it. -/
def bareDocument : Node :=
  .mapping
    [(.string "components", .mapping
        [(.string "responses", .null),
          (.string "schemas", .mapping bareEntries)]),
      (.string "paths", .mapping [])]

/-- The misshapen document declares what it declares without its tags,
and what the document without tags and with other things beside does. -/
theorem ofDocument_eq_of_same_bare :
    SameButTags misshapenDocument misshapenDocument.withoutTags
      ∧ ofDocument misshapenDocument
        = ofDocument misshapenDocument.withoutTags
      ∧ SameUnder "components" (SameUnder "schemas" SameButTags)
          misshapenDocument bareDocument
      ∧ ofDocument misshapenDocument = ofDocument bareDocument := by
  have htags : SameButTags misshapenDocument
      misshapenDocument.withoutTags := rfl
  have hbeside : SameUnder "components" (SameUnder "schemas" SameButTags)
      misshapenDocument bareDocument := by
    refine .inr ⟨_, _, rfl, rfl, .cons (.inr ⟨_, _, rfl, rfl, ?_⟩) .nil⟩
    exact .cons rfl .nil
  exact ⟨htags, ofDocument_eq_of_same.1 _ _ htags, hbeside,
    ofDocument_eq_of_same.2 _ _ hbeside⟩

-- ============================================================ normal form

/-- Making keys text gives every tree the shape of JSON and leaves a tree
in that shape as it is, so to do it again changes nothing. Nor does it
change what a document declares, or why it is rejected, to do it to its
declarations beforehand. -/
theorem withTextKeys_normalises :
    (∀ node : Node, node.withTextKeys.JsonShaped)
    ∧ (∀ node : Node, node.JsonShaped → node.withTextKeys = node)
    ∧ (∀ node : Node,
        node.withTextKeys.withTextKeys = node.withTextKeys)
    ∧ ∀ document : Node,
        ofDocument (changeUnder "components"
            (changeUnder "schemas" Node.withTextKeys) document)
          = ofDocument document := by
  refine ⟨Yaml.Node.withTextKeys_jsonShaped,
    fun _ => Yaml.Node.withTextKeys_eq_self_iff.2,
    Yaml.Node.withTextKeys_withTextKeys, ?_⟩
  intro document
  refine ofDocument_congr ?_
  rw [Yaml.Node.get?_changeUnder]
  cases document.get? "components" with
  | none => exact .none
  | some components =>
      refine .some ?_
      rw [Yaml.Node.get?_changeUnder]
      cases components.get? "schemas" with
      | none => exact .none
      | some schemas =>
          exact .some (Yaml.Node.withTextKeys_withTextKeys schemas)

/-- What the misshapen document declares, with text for keys. A key that
is a collection or has a tag is gone with its value. -/
def misshapenFields : Fields Node :=
  [("User", Node.ofFields
      [("title", .sequence [.null]), ("properties", .bool true)]),
    ("404", .null)]

/-- The declarations of the misshapen document have a normal form, which
stays as it is, and the document with it in their place declares the
same. -/
theorem withTextKeys_normalises_misshapen :
    (Node.mapping misshapenEntries).withTextKeys
        = Node.ofFields misshapenFields
      ∧ (Node.ofFields misshapenFields).JsonShaped
      ∧ (Node.ofFields misshapenFields).withTextKeys
        = Node.ofFields misshapenFields
      ∧ ofDocument (.tagged "!document" (.mapping
          [(.bool false, .null),
            (.string "components", .tagged "!part" (.mapping
              [(.string "schemas", Node.ofFields misshapenFields)]))]))
        = ofDocument misshapenDocument := by
  have hnormal : (Node.mapping misshapenEntries).withTextKeys
      = Node.ofFields misshapenFields := rfl
  have hshaped : (Node.ofFields misshapenFields).JsonShaped := by
    rw [← hnormal]
    exact withTextKeys_normalises.1 _
  exact ⟨hnormal, hshaped, withTextKeys_normalises.2.1 _ hshaped,
    withTextKeys_normalises.2.2.2 misshapenDocument⟩

end Models

end SchemaPress
