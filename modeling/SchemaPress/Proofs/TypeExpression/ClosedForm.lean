/-
Type expressions in closed form.

Unwrapping a schema leaves a number of arrays and what they end at. The
latter is written by itself (`Leaf`): as the name of a primitive type, as
the name of a model, or as a language writes what is unknown.

A language writes an array by putting something in front of its element
and something behind (`listOf_eq`). So n arrays are the leaf with n copies
of the one in front of it and n copies of the other behind
(`typeOf_nest`), and the two languages, which unwrap the same schema,
always write the same number (`typeOfSchema_unwrapped`).
-/
import SchemaPress.Language
import SchemaPress.Proofs.Schema.Unwrapping

namespace SchemaPress

/-- What a leaf is written as in each language. -/
inductive Schema.Leaf : Option Schema → (Language → String) → Prop
  | primitive {s : Schema} (kind : Primitive)
      (htype : s.type = some kind.keyword) :
      Leaf (some s) fun language => language.primitive kind
  | model {s : Schema} {name : String} (hname : s.RefersTo name) :
      Leaf (some s) fun _ => name
  | unknown {last : Option Schema} (hunknown : Unknown last) :
      Leaf last Language.untyped

/-- Copies of a text, one behind the other. -/
def copies (n : Nat) (text : String) : String :=
  String.join (List.replicate n text)

-- ================================================================= shapes

namespace Primitive

theorem ofKeyword?_keyword (kind : Primitive) :
    ofKeyword? kind.keyword = some kind := by
  cases kind <;> decide

/-- A word that is no primitive type is not taken for one. -/
theorem ofKeyword?_eq_none {type : String}
    (h : ∀ kind : Primitive, type ≠ kind.keyword) :
    ofKeyword? type = none := by
  rw [ofKeyword?, List.find?_eq_none]
  intro kind _ hkind
  exact h kind (of_decide_eq_true hkind).symm

end Primitive

namespace Shape

variable {s : Schema} {n : Nat} {last : Option Schema}

/-- Arrays around a shape. -/
def nest : Nat → Shape → Shape
  | 0, leaf => leaf
  | n + 1, leaf => .array (nest n leaf)

/-- The shape of what unwrapping ends at. -/
def ofLast : Option Schema → Shape
  | none => .untyped
  | some s => ofType (decidingType? s) s.reference

theorem ofSchema_of_ne_array (h : s.type ≠ some "array") :
    ofSchema s = ofType (decidingType? s) s.reference := by
  obtain ⟨type, items, reference, description, extensions⟩ := s
  cases items with
  | none => rw [ofSchema, if_neg h]
  | some t => rw [ofSchema, if_neg h]

theorem ofSchema_of_array (h : s.type = some "array") :
    ofSchema s = .array (s.items.elim .untyped ofSchema) := by
  obtain ⟨type, items, reference, description, extensions⟩ := s
  cases items with
  | none =>
      rw [ofSchema, if_pos h]
      rfl
  | some t =>
      rw [ofSchema, if_pos h]
      rfl

/-- The shape of a schema is that of its leaf with its arrays around
it. -/
theorem ofSchema_of_unwraps (h : s.Unwraps n last) :
    ofSchema s = nest n (ofLast last) := by
  induction h with
  | leaf htype => exact ofSchema_of_ne_array htype
  | bare htype hitems =>
      rw [ofSchema_of_array htype, hitems]
      rfl
  | items htype hitems _ ih =>
      rw [ofSchema_of_array htype, hitems, Option.elim_some, ih]
      rfl

theorem ofLast_of_type {type : String} (h : s.type = some type) :
    ofLast (some s) = ofType (some type) s.reference := by
  rw [ofLast, decidingType?, h]

/-- A reference without a type makes an object. -/
theorem ofLast_of_reference {reference : String}
    (htype : s.type = some "object" ∨ s.type = none)
    (hreference : s.reference = some reference) :
    ofLast (some s) = ofReference (some reference) := by
  have hobject : ofType (some "object") (some reference)
      = ofReference (some reference) := rfl
  rcases htype with htype | htype
  · rw [ofLast_of_type htype, hreference, hobject]
  · rw [ofLast, decidingType?, htype, hreference, hobject]

theorem ofLast_of_keyword {kind : Primitive}
    (h : s.type = some kind.keyword) :
    ofLast (some s) = .primitive kind := by
  rw [ofLast_of_type h, ofType, Primitive.ofKeyword?_keyword]

theorem ofLast_of_refersTo {name : String} (h : s.RefersTo name) :
    ofLast (some s) = .model name := by
  obtain ⟨htype, hname, reference, hreference, hcloses⟩ := h
  rw [ofLast_of_reference htype hreference, ofReference,
    Option.bind_some, referenced?_eq_some_iff.2 ⟨hname, hcloses⟩]

theorem ofLast_of_unknown (h : Schema.Unknown last) :
    ofLast last = .untyped := by
  cases h with
  | missing => rfl
  | silent htype hreference =>
      rw [ofLast, decidingType?, htype, hreference]
      rfl
  | bare htype hreference =>
      rw [ofLast_of_type htype, hreference]
      rfl
  | nameless htype hreference hname =>
      rw [ofLast_of_reference htype hreference, ofReference,
        Option.bind_some, referenced?_eq_none_iff.2 hname]
  | foreign htype _ hobject hprimitive =>
      rw [ofLast_of_type htype, ofType,
        Primitive.ofKeyword?_eq_none hprimitive]
      exact if_neg hobject

end Shape

-- ================================================================= leaves

/-- What unwrapping ends at is written in some way. -/
theorem Schema.exists_leaf {last : Option Schema}
    (hlast : ∀ t, last = some t → t.type ≠ some "array") :
    ∃ leaf, Schema.Leaf last leaf := by
  cases last with
  | none => exact ⟨_, .unknown .missing⟩
  | some t =>
      rcases Schema.leaf_cases (hlast t rfl) with hkind | hname | hunknown
      · obtain ⟨kind, hkind⟩ := hkind
        exact ⟨_, .primitive kind hkind⟩
      · obtain ⟨name, hname⟩ := hname
        exact ⟨_, .model hname⟩
      · exact ⟨_, .unknown hunknown⟩

namespace Language

variable {s : Schema} {n : Nat} {last : Option Schema}
  {leaf : Language → String}

/-- A leaf is what its shape is written as. -/
theorem typeOf_ofLast (h : Schema.Leaf last leaf) (language : Language) :
    language.typeOf (Shape.ofLast last) = leaf language := by
  cases h with
  | primitive kind htype =>
      rw [Shape.ofLast_of_keyword htype, typeOf]
  | model hname => rw [Shape.ofLast_of_refersTo hname, typeOf]
  | unknown hunknown => rw [Shape.ofLast_of_unknown hunknown, typeOf]

-- ================================================================== arrays

/-- What a language writes in front of an element. -/
def opening : Language → String
  | .typeScript => ""
  | .java => "List<"

/-- What a language writes behind an element. -/
def closing : Language → String
  | .typeScript => "[]"
  | .java => ">"

theorem listOf_eq (language : Language) (element : String) :
    language.listOf element
      = language.opening ++ element ++ language.closing := by
  cases language with
  | typeScript => rw [listOf, opening, String.empty_append, closing]
  | java => rfl

/-- One more copy in front. -/
theorem copies_succ (n : Nat) (text : String) :
    copies (n + 1) text = text ++ copies n text := by
  rw [copies, List.replicate_succ, String.join_cons, copies]

/-- One more copy behind. -/
theorem copies_succ' (n : Nat) (text : String) :
    copies (n + 1) text = copies n text ++ text := by
  rw [copies, List.replicate_succ', String.join_append,
    String.join_cons, String.join_nil, String.append_empty, copies]

theorem copies_empty (n : Nat) : copies n "" = "" := by
  induction n with
  | zero => rfl
  | succ n ih => rw [copies_succ, ih, String.append_empty]

/-- Arrays around a shape are written around what the shape is written
as. -/
theorem typeOf_nest (language : Language) (n : Nat) (leaf : Shape) :
    language.typeOf (Shape.nest n leaf)
      = copies n language.opening ++ language.typeOf leaf
          ++ copies n language.closing := by
  induction n with
  | zero => simp [Shape.nest, copies]
  | succ n ih =>
      rw [Shape.nest, typeOf, listOf_eq, ih, copies_succ n language.opening,
        copies_succ' n language.closing]
      simp only [String.append_assoc]

/-- A type expression is a leaf and what is written around it, once for
each array that a schema unwraps to, and the leaf is decided by what the
arrays end at. Both languages write the same number of arrays, and the
same leaf where it is the name of a model. -/
theorem typeOfSchema_unwrapped (s : Schema) :
    ∃ n last leaf,
      (s.Unwraps n last
        ∧ ∀ m other, s.Unwraps m other → m = n ∧ other = last)
      ∧ (Schema.Leaf last leaf
        ∧ ∀ other, Schema.Leaf last other → other = leaf)
      ∧ typeScript.typeOfSchema s = leaf .typeScript ++ copies n "[]"
      ∧ java.typeOfSchema s
        = copies n "List<" ++ leaf .java ++ copies n ">"
      ∧ (Schema.Unknown last ↔ ∀ t, last = some t →
          (∀ kind : Primitive, t.type ≠ some kind.keyword)
          ∧ ∀ name, ¬ t.RefersTo name)
      ∧ ∀ t name, last = some t → t.RefersTo name →
          '/' ∉ name.toList ∧ leaf = fun _ => name := by
  obtain ⟨n, last, hunwraps⟩ := s.exists_unwraps
  obtain ⟨leaf, hleaf⟩ := Schema.exists_leaf hunwraps.ne_array
  -- both are what the shape of the leaf is written as
  have hunique : ∀ other, Schema.Leaf last other → other = leaf := by
    intro other hother
    funext language
    rw [← typeOf_ofLast hother, typeOf_ofLast hleaf]
  have htext : ∀ language : Language, language.typeOfSchema s
      = copies n language.opening ++ leaf language
          ++ copies n language.closing := by
    intro language
    rw [typeOfSchema, Shape.ofSchema_of_unwraps hunwraps, typeOf_nest,
      typeOf_ofLast hleaf]
  refine ⟨n, last, leaf, ⟨hunwraps, fun _ _ => hunwraps.unique⟩,
    ⟨hleaf, hunique⟩, ?_, htext java,
    Schema.unknown_iff hunwraps.ne_array, ?_⟩
  · rw [htext typeScript, opening, copies_empty, String.empty_append,
      closing]
  · rintro t name rfl hname
    exact ⟨hname.slash_notMem, (hunique _ (.model hname)).symm⟩

/-- A list of lists of a model, whose name is the end of a reference. -/
example : Language.all.map (fun language => language.typeOfSchema
    (.arrayOf (.arrayOf (.ofReference "other.yml#/definitions/Tag"))))
      = ["Tag[][]", "List<List<Tag>>"] := by
  decide

end Language

end SchemaPress
