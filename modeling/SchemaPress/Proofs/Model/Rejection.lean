/-
Which documents are rejected, and why.

A document is rejected for what leads to its models or for what stands in
their place, never for what stands in a model: `Rejected` says it for
trees, one rule for each reason, and the reason in words.

- Nothing is found under `components`.
- Nothing is found under `schemas` in there, or no mapping.
- A name in that mapping stands for a value that is neither a mapping nor
  nothing. What counts for a name is its last value, so one that is
  overridden does no harm, and neither does one whose key is no scalar.

Every document is in one of four positions (`position`), and in each it
is clear what reading comes to. In the last one, where models are found
to be read, the tree is brought into the shape of JSON first. That drops
and merges entries in the way in which names stand for values, and a tree
keeps being a mapping, or nothing, or neither of the two
(`ofNode?_withTextKeys_eq_none_iff`).
-/
import SchemaPress.Model.Document
import SchemaPress.Proofs.Yaml.Declaration

namespace SchemaPress

open Yaml (Node)

namespace Model

-- ============================================================= one model

/-- What can be a model: a mapping, or nothing, tags stripped. -/
def IsPossible (node : Node) : Prop :=
  (∃ entries, node.untagged = .mapping entries) ∨ node.untagged = .null

/-- What cannot be a model is what is not read as one. -/
theorem ofNode?_withTextKeys_eq_none_iff {node : Node} :
    ofNode? node.withTextKeys = none ↔ ¬ IsPossible node := by
  unfold IsPossible
  rw [← Yaml.Node.withTextKeys_untagged]
  cases huntagged : node.untagged with
  | tagged tag content =>
      exact absurd huntagged
        (Yaml.Node.untagged_ne_tagged tag content node)
  | mapping entries =>
      have hread : ofNode? (Node.mapping entries).withTextKeys ≠ none := by
        rw [Yaml.Node.withTextKeys, Yaml.Node.ofFields, ofNode?,
          Yaml.Node.toJson]
        exact Option.some_ne_none _
      simp [hread]
  | null =>
      have hread : ofNode? Node.null.withTextKeys ≠ none :=
        Option.some_ne_none _
      simp [hread]
  | _ => simp [Yaml.Node.withTextKeys, ofNode?]

/-- No number is a model, also not one that JSON has nothing but `null`
to say for. -/
example (n : Number) : ofNode? (Node.number n).withTextKeys = none := rfl

-- =========================================================== all of them

/-- Models are not read exactly if one of them is not. -/
theorem allOfEntries?_eq_none_iff {fields : Fields Node} :
    allOfEntries? (fields.map fun entry => (.string entry.1, entry.2))
        = none
      ↔ ∃ entry ∈ fields, ofNode? entry.2 = none := by
  induction fields with
  | nil => simp [allOfEntries?]
  | cons first rest ih =>
      simp only [List.map_cons, allOfEntries?, List.mem_cons,
        exists_eq_or_imp, ← ih]
      cases ofNode? first.2 with
      | none => simp
      | some m =>
          cases allOfEntries?
              (rest.map fun entry => (.string entry.1, entry.2)) with
          | none => simp
          | some more => simp

end Model

namespace Models

-- ============================================================= vocabulary

/-- The entries that declare the models of a document, tags on the way to
them looked through. -/
def Declarations (document : Node) (entries : List (Node × Node)) : Prop :=
  ∃ components schemas, document.Holds "components" components
    ∧ components.Holds "schemas" schemas
    ∧ schemas.untagged = .mapping entries

/-- Why a document is rejected, in words. -/
inductive Rejected (document : Node) : String → Prop
  /-- The root is no mapping or has no key `components`. -/
  | noComponents (hlacks : document.Lacks "components") :
      Rejected document "missing \x60components\x60"
  /-- What is there is no mapping or has no key `schemas`. -/
  | noSchemas {components : Node}
      (hcomponents : document.Holds "components" components)
      (hlacks : components.Lacks "schemas") :
      Rejected document "missing \x60components.schemas\x60 mapping"
  /-- What is there is no mapping. -/
  | noMapping {components schemas : Node}
      (hcomponents : document.Holds "components" components)
      (hschemas : components.Holds "schemas" schemas)
      (hmapping : ∀ entries, schemas.untagged ≠ .mapping entries) :
      Rejected document "missing \x60components.schemas\x60 mapping"
  /-- An entry with a scalar for a key, which no later entry overrides,
  has a value that cannot be a model. -/
  | noModel {front back : List (Node × Node)} {key value : Node}
      (hentries : Declarations document (front ++ (key, value) :: back))
      (hscalar : key.IsScalar)
      (hlast : ∀ later ∈ back, later.1.keyText? ≠ key.keyText?)
      (hvalue : ¬ Model.IsPossible value) :
      Rejected document "invalid model definition"

-- ============================================================= positions

variable {document : Node}

/-- A document has no components, or these have no schemas, or these are
no mapping, or it has declarations. -/
theorem position (document : Node) :
    document.Lacks "components"
    ∨ (∃ components, document.Holds "components" components
        ∧ components.Lacks "schemas")
    ∨ (∃ components schemas, document.Holds "components" components
        ∧ components.Holds "schemas" schemas
        ∧ ∀ entries, schemas.untagged ≠ .mapping entries)
    ∨ ∃ entries, Declarations document entries := by
  cases hcomponents : document.get? "components" with
  | none => exact .inl (Yaml.Node.get?_eq_none_iff.1 hcomponents)
  | some components =>
      rw [Yaml.Node.get?_eq_some_iff] at hcomponents
      cases hschemas : components.get? "schemas" with
      | none =>
          have hlacks := Yaml.Node.get?_eq_none_iff.1 hschemas
          exact .inr (.inl ⟨components, hcomponents, hlacks⟩)
      | some schemas =>
          rw [Yaml.Node.get?_eq_some_iff] at hschemas
          by_cases hmapping : ∃ entries, schemas.untagged = .mapping entries
          · obtain ⟨entries, hentries⟩ := hmapping
            exact .inr (.inr (.inr
              ⟨entries, components, schemas, hcomponents, hschemas,
                hentries⟩))
          · exact .inr (.inr (.inl ⟨components, schemas, hcomponents,
              hschemas, fun entries h => hmapping ⟨entries, h⟩⟩))

theorem ofDocument_of_lacks (h : document.Lacks "components") :
    ofDocument document = .error .missingComponents := by
  rw [ofDocument, declarations, Yaml.Node.get?_eq_none_iff.2 h]
  rfl

theorem ofDocument_of_holds_lacks {components : Node}
    (hcomponents : document.Holds "components" components)
    (hlacks : components.Lacks "schemas") :
    ofDocument document = .error .missingSchemas := by
  have hfound := Yaml.Node.get?_eq_some_iff.2 hcomponents
  have hnone := Yaml.Node.get?_eq_none_iff.2 hlacks
  simp only [ofDocument, declarations, hfound, bind, Except.bind, hnone]

theorem ofDocument_of_holds {components schemas : Node}
    (hcomponents : document.Holds "components" components)
    (hschemas : components.Holds "schemas" schemas) :
    ofDocument document
      = if schemas.entries?.isSome then ofDeclarations schemas
        else .error .missingSchemas := by
  have hfound := Yaml.Node.get?_eq_some_iff.2 hcomponents
  have hthere := Yaml.Node.get?_eq_some_iff.2 hschemas
  simp only [ofDocument, declarations, hfound, bind, Except.bind, hthere]
  cases schemas.entries?.isSome with
  | true => rfl
  | false => rfl

theorem ofDocument_of_no_mapping {components schemas : Node}
    (hcomponents : document.Holds "components" components)
    (hschemas : components.Holds "schemas" schemas)
    (hmapping : ∀ entries, schemas.untagged ≠ .mapping entries) :
    ofDocument document = .error .missingSchemas := by
  have hnone : schemas.entries? = none := by
    rw [Option.eq_none_iff_forall_ne_some]
    exact fun entries h => hmapping entries
      (Yaml.Node.entries?_eq_some_iff.1 h)
  rw [ofDocument_of_holds hcomponents hschemas, hnone]
  rfl

/-- The fields that a document declares models with. -/
abbrev fieldsOf (entries : List (Node × Node)) : Fields Node :=
  Fields.ofList (Yaml.Node.entriesWithTextKeys entries)

/-- With declarations it is their values that decide. -/
theorem ofDocument_of_declarations {entries : List (Node × Node)}
    (h : Declarations document entries) :
    ofDocument document
      = match Model.allOfEntries? ((fieldsOf entries).map fun entry =>
            (.string entry.1, entry.2)) with
        | some models => .ok models
        | none => .error .invalidModel := by
  obtain ⟨components, schemas, hcomponents, hschemas, hmapping⟩ := h
  rw [ofDocument_of_holds hcomponents hschemas,
    Yaml.Node.entries?_eq_some_iff.2 hmapping, ofDeclarations,
    ← Yaml.Node.withTextKeys_untagged, hmapping, Yaml.Node.withTextKeys]
  rfl

/-- Models cannot be read exactly if a name stands for what cannot be a
model. -/
theorem allOfEntries?_fieldsOf_eq_none_iff {entries : List (Node × Node)} :
    Model.allOfEntries? ((fieldsOf entries).map fun entry =>
        (.string entry.1, entry.2)) = none
      ↔ ∃ name value, Yaml.Node.Declares entries name value
          ∧ ¬ Model.IsPossible value := by
  rw [Model.allOfEntries?_eq_none_iff]
  constructor
  · rintro ⟨⟨name, x⟩, hmem, hread⟩
    have hget := Fields.get?_of_mem (Fields.names_ofList_nodup _) hmem
    obtain ⟨value, hdeclares, rfl⟩ :=
      Yaml.Node.get?_ofList_eq_some_iff.1 hget
    exact ⟨name, value, hdeclares,
      Model.ofNode?_withTextKeys_eq_none_iff.1 hread⟩
  · rintro ⟨name, value, hdeclares, hvalue⟩
    have hget := Yaml.Node.get?_ofList_eq_some_iff.2
      ⟨value, hdeclares, rfl⟩
    exact ⟨(name, value.withTextKeys), Fields.mem_of_get? hget,
      Model.ofNode?_withTextKeys_eq_none_iff.2 hvalue⟩

-- ============================================================= rejection

/-- The outcome of reading in words: the words are those of the rule that
applies. -/
theorem mapError_ofDocument_eq_error_iff {text : String} :
    (ofDocument document).mapError Malformation.message = .error text
      ↔ Rejected document text := by
  constructor
  · intro h
    rcases position document with hlacks | ⟨components, hc, hlacks⟩
      | ⟨components, schemas, hc, hs, hmapping⟩ | ⟨entries, hentries⟩
    · rw [ofDocument_of_lacks hlacks] at h
      cases h
      exact .noComponents hlacks
    · rw [ofDocument_of_holds_lacks hc hlacks] at h
      cases h
      exact .noSchemas hc hlacks
    · rw [ofDocument_of_no_mapping hc hs hmapping] at h
      cases h
      exact .noMapping hc hs hmapping
    · rw [ofDocument_of_declarations hentries] at h
      split at h
      · cases h
      · next hnone =>
          cases h
          obtain ⟨name, value, ⟨front, key, back, rfl, hkey, hback⟩, hvalue⟩ :=
            allOfEntries?_fieldsOf_eq_none_iff.1 hnone
          refine .noModel hentries ?_ ?_ hvalue
          · exact (Yaml.Node.exists_keyText?_iff key).1 ⟨name, hkey⟩
          · rw [hkey]
            exact hback
  · intro h
    cases h with
    | noComponents hlacks => rw [ofDocument_of_lacks hlacks]; rfl
    | noSchemas hc hlacks => rw [ofDocument_of_holds_lacks hc hlacks]; rfl
    | noMapping hc hs hmapping =>
        rw [ofDocument_of_no_mapping hc hs hmapping]; rfl
    | noModel hentries hscalar hlast hvalue =>
        obtain ⟨name, hname⟩ := (Yaml.Node.exists_keyText?_iff _).2 hscalar
        rw [hname] at hlast
        rw [ofDocument_of_declarations hentries,
          allOfEntries?_fieldsOf_eq_none_iff.2
            ⟨name, _, ⟨_, _, _, rfl, hname, hlast⟩, hvalue⟩]
        rfl

/-- A document that declares nothing but possible models is read,
whatever the models look like inside. -/
theorem exists_ofDocument_eq_ok {entries : List (Node × Node)}
    (h : Declarations document entries)
    (hpossible : ∀ entry ∈ entries, Model.IsPossible entry.2) :
    ∃ models, ofDocument document = .ok models := by
  rw [ofDocument_of_declarations h]
  cases hread : Model.allOfEntries? ((fieldsOf entries).map fun entry =>
      (.string entry.1, entry.2)) with
  | some models => exact ⟨models, rfl⟩
  | none =>
      obtain ⟨name, value, ⟨front, key, back, rfl, -, -⟩, hvalue⟩ :=
        allOfEntries?_fieldsOf_eq_none_iff.1 hread
      exact absurd (hpossible (key, value) (by simp)) hvalue

/-- A document is rejected for exactly the reasons that `Rejected` says,
in its words, and is read if there is none. So is one that declares
nothing but possible models, whatever they look like inside. A text is
rejected like the document it holds, or for holding none. -/
theorem rejected_iff :
    (∀ document text,
      (ofDocument document).mapError Malformation.message = .error text
        ↔ Rejected document text)
    ∧ (∀ document, (∃ models, ofDocument document = .ok models)
        ↔ ∀ text, ¬ Rejected document text)
    ∧ (∀ document entries, Declarations document entries →
        (∀ entry ∈ entries, Model.IsPossible entry.2) →
        ∃ models, ofDocument document = .ok models)
    ∧ ∀ source text,
        (ofText source).mapError Malformation.message = .error text
          ↔ (Node.ofText? source = none ∧ text = "invalid YAML")
            ∨ ∃ document, Node.ofText? source = some document
                ∧ Rejected document text := by
  refine ⟨fun _ _ => mapError_ofDocument_eq_error_iff, ?_,
    fun _ _ => exists_ofDocument_eq_ok, ?_⟩
  · intro document
    simp only [← mapError_ofDocument_eq_error_iff]
    cases ofDocument document with
    | ok models => exact iff_of_true ⟨models, rfl⟩ fun _ => nofun
    | error reason =>
        refine iff_of_false nofun fun h => h reason.message rfl
  · intro source text
    unfold ofText
    cases Node.ofText? source with
    | none =>
        simp [Except.mapError, Malformation.message, eq_comm]
    | some document =>
        simp [mapError_ofDocument_eq_error_iff]

/-- Two models of which one is a name with nothing behind it, and nothing
in the other has the shape that it should have. -/
def misshapenEntries : List (Node × Node) :=
  [(.string "User", .tagged "!model" (.mapping
      [(.string "title", .sequence [.null]),
        (.string "properties", .bool true),
        (.sequence [], .null),
        (.tagged "!key" (.string "type"), .mapping [(.null, .null)])])),
    (.number (.whole 404), .tagged "!model" .null)]

/-- The document that declares the two, with tags on the way. -/
def misshapenDocument : Node :=
  .tagged "!document" (.mapping
    [(.bool false, .null),
      (.string "components", .tagged "!part" (.mapping
        [(.string "schemas", .mapping misshapenEntries)]))])

/-- The document with the misshapen models is read, and not rejected for
any reason. -/
theorem rejected_iff_misshapen :
    Declarations misshapenDocument misshapenEntries
      ∧ (∀ entry ∈ misshapenEntries, Model.IsPossible entry.2)
      ∧ (∃ models, ofDocument misshapenDocument = .ok models)
      ∧ ∀ text, ¬ Rejected misshapenDocument text := by
  have hentries : Declarations misshapenDocument misshapenEntries := by
    refine ⟨_, _, ⟨[(.bool false, .null)], [], rfl, ?_⟩,
      ⟨[], [], rfl, ?_⟩, rfl⟩
    · simp
    · simp
  have hpossible : ∀ entry ∈ misshapenEntries,
      Model.IsPossible entry.2 := by
    intro entry hentry
    simp only [misshapenEntries, List.mem_cons, List.not_mem_nil,
      or_false] at hentry
    rcases hentry with rfl | rfl
    · exact .inl ⟨_, rfl⟩
    · exact .inr rfl
  have hread := rejected_iff.2.2.1 _ _ hentries hpossible
  exact ⟨hentries, hpossible, hread, (rejected_iff.2.1 _).1 hread⟩

end Models

end SchemaPress
