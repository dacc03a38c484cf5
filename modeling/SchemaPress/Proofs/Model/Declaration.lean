/-
What a document declares.

A document that is read declares exactly the models that come out, and
each of them what comes out of it. `DeclaredIn` says of entries and a
model that the model is what the entries declare: title and description
are the texts that their names stand for, the properties are the names of
another mapping with the schema that each stands for, and the extensions
are all the other names. On top of that, models are once more the names
of a mapping and what they stand for, and `DeclaresFields` is the one
rule for all three.

Reading keeps the rule at each level because it handles one name after
the other: what is made of a name depends on its own value alone, and
nothing is left out, doubled or moved (`declaresFields_mapValues`,
`declaresFields_of_allOfEntries?`).
-/
import SchemaPress.Proofs.Model.Rejection
import SchemaPress.Proofs.Model.RoundTrip
import SchemaPress.Proofs.Schema.Declaration

namespace SchemaPress

open Yaml (Node)
open Yaml.Node (jsonFieldsOf DeclaresText DeclaresMapping DeclaresFields
  AsJson)

variable {entries : List (Node × Node)}

/-- Values that are read one by one from what names stand for. -/
theorem Yaml.Node.declaresFields_mapValues {α : Type} {f : Json → α}
    {reads : Node → α → Prop}
    (h : ∀ node, reads node (f node.withTextKeys.toJson)) :
    DeclaresFields entries [] reads
      (Fields.mapValues f (jsonFieldsOf entries)) where
  names_eq := by
    rw [Fields.names_mapValues, names_jsonFieldsOf]
    exact (List.filter_eq_self.2 fun _ _ => rfl).symm
  reads_of_mem := by
    intro name x hmem
    obtain ⟨⟨key, value⟩, hvalue, hx⟩ := List.mem_map.1 hmem
    cases hx
    have hall := declaresFields_without entries []
    rw [Fields.without_of_forall_not_mem fun _ _ => List.not_mem_nil]
      at hall
    obtain ⟨node, hnode, rfl⟩ := hall.reads_of_mem _ _ hvalue
    exact ⟨node, hnode, h node⟩

namespace Model

-- ============================================================= vocabulary

/-- What entries declare of a model. -/
structure DeclaredIn (entries : List (Node × Node)) (m : Model) : Prop where
  title_iff : ∀ text,
    m.title = some text ↔ DeclaresText entries "title" text
  description_iff : ∀ text,
    m.description = some text ↔ DeclaresText entries "description" text
  properties : ∀ inner, DeclaresMapping entries "properties" inner →
    DeclaresFields inner [] Schema.DeclaredBy m.properties
  no_properties : (∀ inner, ¬ DeclaresMapping entries "properties" inner) →
    m.properties = []
  extensions : DeclaresFields entries keywords AsJson m.extensions

/-- What a tree declares of a model: what the entries of a mapping
declare, or nothing where there is nothing at all. -/
def DeclaredBy (node : Node) (m : Model) : Prop :=
  (∃ entries, node.untagged = .mapping entries ∧ DeclaredIn entries m)
  ∨ (node.untagged = .null ∧ m = empty)

-- ============================================================= one model

theorem propertiesOf_mapping {inner : List (Node × Node)}
    (h : DeclaresMapping entries "properties" inner) :
    propertiesOf (Fields.get? "properties" (jsonFieldsOf entries))
      = Fields.mapValues Schema.ofJson (jsonFieldsOf inner) := by
  obtain ⟨node, hnode, hmapping⟩ := h
  rw [Yaml.Node.get?_jsonFieldsOf_eq_some_iff.2 ⟨node, hnode, rfl⟩,
    Yaml.Node.json_eq_object_iff.2 ⟨inner, hmapping, rfl⟩, propertiesOf]

theorem propertiesOf_no_mapping
    (h : ∀ inner, ¬ DeclaresMapping entries "properties" inner) :
    propertiesOf (Fields.get? "properties" (jsonFieldsOf entries)) = [] := by
  unfold propertiesOf
  split
  · next fields hget =>
      obtain ⟨node, hnode, hvalue⟩ :=
        Yaml.Node.get?_jsonFieldsOf_eq_some_iff.1 hget
      obtain ⟨inner, hmapping, -⟩ :=
        Yaml.Node.json_eq_object_iff.1 hvalue.symm
      exact absurd ⟨node, hnode, hmapping⟩ (h inner)
  · rfl

/-- A model that is read from entries is what they declare. -/
theorem declaredIn_ofFields (entries : List (Node × Node)) :
    DeclaredIn entries (ofFields (jsonFieldsOf entries)) where
  title_iff _ := Schema.textAt_jsonFieldsOf_eq_some_iff
  description_iff _ := Schema.textAt_jsonFieldsOf_eq_some_iff
  properties inner hinner := by
    rw [ofFields, propertiesOf_mapping hinner]
    exact Yaml.Node.declaresFields_mapValues Schema.declaredBy_ofJson
  no_properties hnone := propertiesOf_no_mapping hnone
  extensions := Yaml.Node.declaresFields_without entries keywords

/-- A model that is read from a tree is what the tree declares. -/
theorem declaredBy_of_ofNode? {node : Node} {m : Model}
    (h : ofNode? node.withTextKeys = some m) : DeclaredBy node m := by
  have hpossible : IsPossible node := by
    by_contra hnot
    rw [ofNode?_withTextKeys_eq_none_iff.2 hnot] at h
    cases h
  rcases hpossible with ⟨entries, hmapping⟩ | hnull
  · have hobject := Yaml.Node.json_eq_object_iff.2 ⟨entries, hmapping, rfl⟩
    have hread := ofJson?_of_ofNode? h
    rw [hobject] at hread
    cases hread
    exact .inl ⟨entries, hmapping, declaredIn_ofFields entries⟩
  · rw [← Yaml.Node.withTextKeys_untagged, hnull] at h
    cases h
    exact .inr ⟨hnull, rfl⟩

-- =========================================================== all of them

/-- Models have the names of the entries they are read from. -/
theorem names_of_allOfEntries? {fields : Fields Node} {models : Models}
    (h : allOfEntries? (fields.map fun entry => (.string entry.1, entry.2))
      = some models) : Fields.names models = Fields.names fields := by
  induction fields generalizing models with
  | nil =>
      cases h
      rfl
  | cons first rest ih =>
      rw [List.map_cons, allOfEntries?] at h
      obtain ⟨m, -, h⟩ := Option.bind_eq_some_iff.1 h
      obtain ⟨more, hmore, h⟩ := Option.bind_eq_some_iff.1 h
      cases h
      show first.1 :: Fields.names more = first.1 :: Fields.names rest
      rw [ih hmore]

/-- Models that are read from entries are what they declare. -/
theorem declaresFields_of_allOfEntries? {models : Models}
    (h : allOfEntries? ((Models.fieldsOf entries).map fun entry =>
      (.string entry.1, entry.2)) = some models) :
    DeclaresFields entries [] DeclaredBy models where
  names_eq := by
    rw [names_of_allOfEntries? h, Fields.names_ofList,
      Yaml.Node.names_entriesWithTextKeys]
    exact (List.filter_eq_self.2 fun _ _ => rfl).symm
  reads_of_mem := by
    intro name m hmem
    obtain ⟨x, hx, hread⟩ := of_mem_allOfEntries? h hmem
    have hget := Fields.get?_of_mem (Fields.names_ofList_nodup _) hx
    obtain ⟨node, hnode, rfl⟩ := Yaml.Node.get?_ofList_eq_some_iff.1 hget
    exact ⟨node, hnode, declaredBy_of_ofNode? hread⟩

end Model

namespace Models

variable {document : Node} {models : Models}

/-- A document that is read has declarations, and its models are read
from these. -/
theorem exists_declarations_of_ofDocument
    (h : ofDocument document = .ok models) :
    ∃ entries, Declarations document entries
      ∧ Model.allOfEntries? ((fieldsOf entries).map fun entry =>
          (.string entry.1, entry.2)) = some models := by
  have hnot : ∀ text, ¬ Rejected document text := by
    intro text hrejected
    rw [← mapError_ofDocument_eq_error_iff, h] at hrejected
    cases hrejected
  rcases position document with hlacks | ⟨components, hc, hlacks⟩
    | ⟨components, schemas, hc, hs, hmapping⟩ | ⟨entries, hentries⟩
  · exact absurd (.noComponents hlacks) (hnot _)
  · exact absurd (.noSchemas hc hlacks) (hnot _)
  · exact absurd (.noMapping hc hs hmapping) (hnot _)
  · refine ⟨entries, hentries, ?_⟩
    rw [ofDocument_of_declarations hentries] at h
    split at h
    · next found hfound =>
        cases h
        exact hfound
    · cases h

/-- Models have distinct names. -/
theorem names_nodup_of_ofDocument (h : ofDocument document = .ok models) :
    (Fields.names models).Nodup := by
  obtain ⟨entries, -, hread⟩ := exists_declarations_of_ofDocument h
  rw [Model.names_of_allOfEntries? hread]
  exact Fields.names_ofList_nodup _

/-- A document that is read has declarations, and its models are what
these declare: the models, their properties and extensions, and the
schemas of the properties with their items and extensions, at every
depth. Nothing is lost on the way, or doubled, or moved. -/
theorem declared_of_ofDocument (h : ofDocument document = .ok models) :
    (Fields.names models).Nodup
      ∧ ∃ entries, Declarations document entries
          ∧ DeclaresFields entries [] Model.DeclaredBy models := by
  obtain ⟨entries, hentries, hread⟩ := exists_declarations_of_ofDocument h
  exact ⟨names_nodup_of_ofDocument h, entries, hentries,
    Model.declaresFields_of_allOfEntries? hread⟩

/-- A document in which different keys mean the same name: a model, and a
property of it, are overridden. -/
def overriding : Node :=
  .mapping [(.string "components", .mapping [(.string "schemas", .mapping
    [(.number (.whole 1), .string "no model"),
      (.bool true, .null),
      (.sequence [], .string "no model"),
      (.string "1", .mapping
        [(.string "title", .tagged "!text" (.string "One")),
          (.string "properties", .mapping
            [(.null, .string "no schema"),
              (.string "id", .null),
              (.string "null", .mapping
                [(.string "type", .string "array"),
                  (.string "items", .tagged "!schema" (.mapping [])),
                  (.bool false, .null)])])])])])]

/-- The overriding document declares two models, the first of which has
the title and the properties of what is written last. -/
theorem declared_of_overriding :
    ∃ models m, ofDocument overriding = .ok models
      ∧ Fields.names models = ["1", "true"]
      ∧ Fields.get? "1" models = some m
      ∧ m.title = some "One"
      ∧ Fields.names m.properties = ["null", "id"]
      ∧ ∃ entries, Declarations overriding entries
          ∧ DeclaresFields entries [] Model.DeclaredBy models := by
  have hpasses : passes (fun models =>
      Fields.names models == ["1", "true"]
        && ((Fields.get? "1" models).map fun m =>
            (m.title, Fields.names m.properties))
          == some (some "One", ["null", "id"]))
      (ofDocument overriding) = true := by
    decide +kernel
  obtain ⟨models, hmodels, hcheck⟩ := exists_of_passes hpasses
  rw [Bool.and_eq_true, beq_iff_eq, beq_iff_eq] at hcheck
  obtain ⟨hnames, hfirst⟩ := hcheck
  obtain ⟨m, hm, hfields⟩ := Option.map_eq_some_iff.1 hfirst
  rw [Prod.mk.injEq] at hfields
  exact ⟨models, m, hmodels, hnames, hm, hfields.1, hfields.2,
    (declared_of_ofDocument hmodels).2⟩

end Models

end SchemaPress
