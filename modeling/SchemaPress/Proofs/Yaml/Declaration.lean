/-
What the entries of a mapping declare.

A tree is read in two ways. On the way to the declarations a mapping is
looked into as it is: a key is an untagged text, tags around the mapping
are looked through, and a value is found under its key (`Holds`). In the
declarations themselves every scalar is a key, by its text, so two
different keys may mean the same name. There the rule for fields decides:
a name stands where it is first written and for the value that is last
written under it (`Declares`).

Both are said here without a reader. That the readers agree is what this
module shows: looking up finds what a mapping holds (`get?_eq_some_iff`),
and the fields that a mapping is as JSON have the names of its keys, each
once (`names_jsonFieldsOf`), with the values that they stand for
(`get?_jsonFieldsOf_eq_some_iff`). What a tree is as JSON tells in turn
whether it is a mapping or a text behind its tags
(`json_eq_object_iff`, `json_eq_string_iff`), and nothing else has to be
known of a tree to read models from it.
-/
import SchemaPress.Proofs.Yaml.Shape

namespace SchemaPress.Yaml.Node

variable {node value : Node} {entries : List (Node × Node)}
  {key name : String}

-- ============================================================= vocabulary

/-- The nodes that can be keys by their text. -/
inductive IsScalar : Node → Prop
  | null : IsScalar .null
  | bool (value : Bool) : IsScalar (.bool value)
  | number (value : Number) : IsScalar (.number value)
  | string (value : String) : IsScalar (.string value)

/-- A value stands under an untagged text key of a mapping, the first
one if there are several. -/
def Holds (key : String) (node value : Node) : Prop :=
  ∃ front back,
    node.untagged = .mapping (front ++ (.string key, value) :: back)
    ∧ ∀ entry ∈ front, entry.1 ≠ .string key

/-- No value stands under a key, be it that there is no such key or that
there is no mapping. -/
def Lacks (key : String) (node : Node) : Prop :=
  ∀ entries, node.untagged = .mapping entries →
    ∀ entry ∈ entries, entry.1 ≠ .string key

/-- The texts of the keys that have one. -/
def keyTexts (entries : List (Node × Node)) : List String :=
  entries.filterMap fun entry => entry.1.keyText?

/-- A name stands for a value: the value is under a key with that text,
and so is no later one. -/
def Declares (entries : List (Node × Node)) (name : String)
    (value : Node) : Prop :=
  ∃ front key back, entries = front ++ (key, value) :: back
    ∧ key.keyText? = some name
    ∧ ∀ later ∈ back, later.1.keyText? ≠ some name

/-- A name stands for a text, tags stripped. -/
def DeclaresText (entries : List (Node × Node)) (name text : String) :
    Prop :=
  ∃ value, Declares entries name value ∧ value.untagged = .string text

/-- A name stands for a mapping, tags stripped. -/
def DeclaresMapping (entries : List (Node × Node)) (name : String)
    (inner : List (Node × Node)) : Prop :=
  ∃ value, Declares entries name value ∧ value.untagged = .mapping inner

/-- A value is what a tree is as JSON. -/
def AsJson (node : Node) (value : Json) : Prop :=
  value = node.withTextKeys.toJson

/-- Fields are what entries declare: the names are those of the keys,
each where it is written first, without those that are left out, and the
value of each is read from what the name stands for. -/
structure DeclaresFields {α : Type} (entries : List (Node × Node))
    (gone : List String) (reads : Node → α → Prop) (fields : Fields α) :
    Prop where
  names_eq : Fields.names fields
    = (keyTexts entries).eraseDups.filter fun name => !gone.contains name
  reads_of_mem : ∀ name x, (name, x) ∈ fields →
    ∃ value, Declares entries name value ∧ reads value x

-- ================================================================== keys

/-- The nodes that have a text as keys are the untagged scalars. -/
theorem exists_keyText?_iff (key : Node) :
    (∃ name, key.keyText? = some name) ↔ key.IsScalar := by
  constructor
  · rintro ⟨name, hname⟩
    cases key with
    | null => exact .null
    | bool b => exact .bool b
    | number n => exact .number n
    | string s => exact .string s
    | _ => cases hname
  · intro h
    cases h with
    | null => exact ⟨_, rfl⟩
    | bool b => cases b <;> exact ⟨_, rfl⟩
    | number n => cases n <;> exact ⟨_, rfl⟩
    | string s => exact ⟨_, rfl⟩

-- ============================================================ looking up

theorem entries?_eq_some_iff :
    node.entries? = some entries ↔ node.untagged = .mapping entries := by
  unfold entries?
  split
  · next h => rw [h, Option.some.injEq, mapping.injEq]
  · next h => exact ⟨nofun, fun heq => absurd heq (h entries)⟩

/-- What an entry has under a key. -/
def valueUnder? (key : String) : Node × Node → Option Node
  | (.string name, value) => if name = key then some value else none
  | _ => none

theorem valueUnder?_eq_some_iff {entry : Node × Node} :
    valueUnder? key entry = some value ↔ entry = (.string key, value) := by
  obtain ⟨k, v⟩ := entry
  cases k with
  | string name =>
      rw [valueUnder?]
      split
      · next hname => simp [hname]
      · next hname => simp [hname]
  | _ => simp [valueUnder?]

theorem valueUnder?_eq_none_iff {entry : Node × Node} :
    valueUnder? key entry = none ↔ entry.1 ≠ .string key := by
  obtain ⟨k, v⟩ := entry
  cases k with
  | string name => simp [valueUnder?]
  | _ => simp [valueUnder?]

theorem valueOf?_eq_findSome? (key : String)
    (entries : List (Node × Node)) :
    valueOf? key entries = entries.findSome? (valueUnder? key) := by
  induction entries with
  | nil => rfl
  | cons entry rest ih =>
      obtain ⟨k, v⟩ := entry
      cases k with
      | string name =>
          rw [valueOf?, List.findSome?_cons, valueUnder?, ih]
          split
          · rfl
          · rfl
      | _ => exact ih

/-- Looking up finds what a mapping holds, tags looked through. -/
theorem get?_eq_some_iff :
    node.get? key = some value ↔ node.Holds key value := by
  unfold get? Holds
  rw [Option.bind_eq_some_iff]
  constructor
  · rintro ⟨entries, hentries, hvalue⟩
    rw [valueOf?_eq_findSome?, List.findSome?_eq_some_iff] at hvalue
    obtain ⟨front, entry, back, rfl, hentry, hfront⟩ := hvalue
    rw [valueUnder?_eq_some_iff] at hentry
    rw [hentry] at hentries
    refine ⟨front, back, entries?_eq_some_iff.1 hentries, ?_⟩
    exact fun other hother =>
      valueUnder?_eq_none_iff.1 (hfront other hother)
  · rintro ⟨front, back, hnode, hfront⟩
    refine ⟨_, entries?_eq_some_iff.2 hnode, ?_⟩
    rw [valueOf?_eq_findSome?, List.findSome?_eq_some_iff]
    refine ⟨front, _, back, rfl, valueUnder?_eq_some_iff.2 rfl, ?_⟩
    exact fun other hother =>
      valueUnder?_eq_none_iff.2 (hfront other hother)

/-- Looking up finds nothing exactly where a mapping lacks the key. -/
theorem get?_eq_none_iff : node.get? key = none ↔ node.Lacks key := by
  unfold get? Lacks
  cases hnode : node.entries? with
  | none =>
      refine iff_of_true rfl ?_
      intro entries hentries
      rw [entries?_eq_some_iff.2 hentries] at hnode
      cases hnode
  | some entries =>
      have hmapping := entries?_eq_some_iff.1 hnode
      rw [Option.bind_some, valueOf?_eq_findSome?,
        List.findSome?_eq_none_iff]
      simp only [valueUnder?_eq_none_iff, hmapping, mapping.injEq,
        forall_eq']

-- ============================================================ as fields

/-- The pairs of names and values that entries are. -/
theorem entriesWithTextKeys_eq_filterMap (entries : List (Node × Node)) :
    entriesWithTextKeys entries = entries.filterMap fun entry =>
      entry.1.keyText?.map fun name => (name, entry.2.withTextKeys) := by
  induction entries with
  | nil => rfl
  | cons entry rest ih =>
      obtain ⟨key, value⟩ := entry
      rw [entriesWithTextKeys, List.filterMap_cons, ih]
      cases key.keyText? with
      | none => rfl
      | some name => rfl

theorem names_entriesWithTextKeys (entries : List (Node × Node)) :
    Fields.names (entriesWithTextKeys entries) = keyTexts entries := by
  rw [entriesWithTextKeys_eq_filterMap, Fields.names, List.map_filterMap,
    keyTexts]
  simp [Function.comp_def]

/-- What an entry has under a name, as the value of a field. -/
def fieldUnder? (name : String) (entry : Node × Node) : Option Node :=
  if entry.1.keyText? = some name then some entry.2.withTextKeys else none

theorem get?_filterMap (name : String) (entries : List (Node × Node)) :
    Fields.get? name (entries.filterMap fun entry =>
        entry.1.keyText?.map fun text => (text, entry.2.withTextKeys))
      = entries.findSome? (fieldUnder? name) := by
  induction entries with
  | nil => rfl
  | cons entry rest ih =>
      rw [List.filterMap_cons, List.findSome?_cons, fieldUnder?, ← ih]
      cases entry.1.keyText? with
      | none => rfl
      | some text =>
          dsimp only [Option.map_some]
          rw [Fields.get?]
          by_cases htext : text = name
          · simp [htext]
          · simp [htext]

/-- The field with a name has the value that the name stands for. -/
theorem get?_ofList_eq_some_iff {x : Node} :
    Fields.get? name (Fields.ofList (entriesWithTextKeys entries)) = some x
      ↔ ∃ value, Declares entries name value ∧ x = value.withTextKeys := by
  rw [Fields.get?_ofList, entriesWithTextKeys_eq_filterMap,
    ← List.filterMap_reverse, get?_filterMap, List.findSome?_eq_some_iff]
  -- the last entries with the name are the first ones from behind
  constructor
  · rintro ⟨back, entry, front, hentries, hentry, hback⟩
    unfold fieldUnder? at hentry
    split at hentry
    · next hkey =>
        cases hentry
        refine ⟨entry.2, ⟨front.reverse, entry.1, back.reverse, ?_, hkey,
          ?_⟩, rfl⟩
        · rw [List.reverse_eq_append_iff] at hentries
          simpa using hentries
        · intro later hlater hname
          have hnone := hback later (List.mem_reverse.1 hlater)
          rw [fieldUnder?, if_pos hname] at hnone
          cases hnone
    · cases hentry
  · rintro ⟨value, ⟨front, key, back, rfl, hkey, hback⟩, rfl⟩
    refine ⟨back.reverse, (key, value), front.reverse, by simp, ?_, ?_⟩
    · rw [fieldUnder?, if_pos hkey]
    · intro later hlater
      exact if_neg (hback later (List.mem_reverse.1 hlater))

-- =============================================================== as JSON

/-- The fields of the object that entries are as JSON. -/
def jsonFieldsOf (entries : List (Node × Node)) : Fields Json :=
  Fields.mapValues toJson (Fields.ofList (entriesWithTextKeys entries))

/-- Names stand where they are written first, each once. -/
theorem names_jsonFieldsOf (entries : List (Node × Node)) :
    Fields.names (jsonFieldsOf entries) = (keyTexts entries).eraseDups := by
  rw [jsonFieldsOf, Fields.names_mapValues, Fields.names_ofList,
    names_entriesWithTextKeys]

/-- The field with a name has the value that the name stands for. -/
theorem get?_jsonFieldsOf_eq_some_iff {x : Json} :
    Fields.get? name (jsonFieldsOf entries) = some x
      ↔ ∃ value, Declares entries name value
          ∧ x = value.withTextKeys.toJson := by
  rw [jsonFieldsOf, Fields.get?_mapValues, Option.map_eq_some_iff]
  simp only [get?_ofList_eq_some_iff]
  constructor
  · rintro ⟨_, ⟨value, hvalue, rfl⟩, rfl⟩
    exact ⟨value, hvalue, rfl⟩
  · rintro ⟨value, hvalue, rfl⟩
    exact ⟨_, ⟨value, hvalue, rfl⟩, rfl⟩

/-- The fields of the object are what the entries declare, also without
some of them. -/
theorem declaresFields_without (entries : List (Node × Node))
    (gone : List String) :
    DeclaresFields entries gone AsJson
      (Fields.without gone (jsonFieldsOf entries)) where
  names_eq := by rw [Fields.names_without, names_jsonFieldsOf]
  reads_of_mem := by
    intro name x hmem
    have hnodup : (Fields.names (jsonFieldsOf entries)).Nodup := by
      rw [jsonFieldsOf, Fields.names_mapValues]
      exact Fields.names_ofList_nodup _
    have hget := Fields.get?_of_mem hnodup (List.mem_filter.1 hmem).1
    exact get?_jsonFieldsOf_eq_some_iff.1 hget

/-- Tags do not count when keys are made text. -/
theorem withTextKeys_untagged :
    ∀ node : Node, node.untagged.withTextKeys = node.withTextKeys
  | .tagged _ content => by
      rw [untagged, withTextKeys]
      exact withTextKeys_untagged content
  | .null => rfl
  | .bool _ => rfl
  | .number _ => rfl
  | .string _ => rfl
  | .sequence _ => rfl
  | .mapping _ => rfl

theorem untagged_ne_tagged (tag : String) (content : Node) :
    ∀ node : Node, node.untagged ≠ .tagged tag content
  | .tagged _ inner => by
      rw [untagged]
      exact untagged_ne_tagged tag content inner
  | .null => nofun
  | .bool _ => nofun
  | .number _ => nofun
  | .string _ => nofun
  | .sequence _ => nofun
  | .mapping _ => nofun

/-- Numbers are numbers as JSON, or nothing. -/
theorem jsonNumber_cases (n : Number) :
    jsonNumber n = .number n ∨ jsonNumber n = .null := by
  cases n with
  | whole n => exact .inl rfl
  | real x =>
      rw [jsonNumber]
      split
      · exact .inl rfl
      · exact .inr rfl

@[simp]
theorem jsonNumber_ne_object (n : Number) (fields : Fields Json) :
    jsonNumber n ≠ .object fields := by
  rcases jsonNumber_cases n with h | h
  · simp [h]
  · simp [h]

@[simp]
theorem jsonNumber_ne_string (n : Number) (text : String) :
    jsonNumber n ≠ .string text := by
  rcases jsonNumber_cases n with h | h
  · simp [h]
  · simp [h]

/-- Trees that are an object as JSON are mappings behind their tags. -/
theorem json_eq_object_iff {fields : Fields Json} :
    node.withTextKeys.toJson = .object fields
      ↔ ∃ entries, node.untagged = .mapping entries
          ∧ fields = jsonFieldsOf entries := by
  rw [← withTextKeys_untagged]
  cases huntagged : node.untagged with
  | tagged tag content =>
      exact absurd huntagged (untagged_ne_tagged tag content node)
  | mapping entries =>
      rw [withTextKeys, toJson_ofFields]
      simp [jsonFieldsOf, eq_comm]
  | _ => simp [withTextKeys, toJson]

/-- Trees that are a text as JSON are texts behind their tags. -/
theorem json_eq_string_iff {text : String} :
    node.withTextKeys.toJson = .string text
      ↔ node.untagged = .string text := by
  rw [← withTextKeys_untagged]
  cases huntagged : node.untagged with
  | tagged tag content =>
      exact absurd huntagged (untagged_ne_tagged tag content node)
  | mapping entries =>
      rw [withTextKeys, toJson_ofFields]
      simp
  | _ => simp [withTextKeys, toJson]

end SchemaPress.Yaml.Node
