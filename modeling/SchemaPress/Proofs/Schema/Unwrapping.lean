/-
Schemas, unwrapped.

An array says what it holds in its items, and that may be an array again.
`Unwraps` follows the items of a schema as long as there is an array: it
counts the arrays, and it ends at a schema that is none, or at nothing
where an array does not say what it holds. Every schema unwraps
(`exists_unwraps`), and in one way only (`Unwraps.unique`).

What unwrapping ends at is of a primitive type, or it refers to a model,
or it is unknown. `Unknown` lists the reasons for the last, and they are
all that is left once the first two are ruled out (`unknown_iff`).
-/
import SchemaPress.Proofs.Shape.Reference

namespace SchemaPress.Schema

-- ============================================================= vocabulary

/-- What unwrapping a schema comes to: how many arrays there are, one
inside of the other, and the schema in the innermost one, if there is
any. -/
inductive Unwraps : Schema → Nat → Option Schema → Prop
  | leaf {s : Schema} (htype : s.type ≠ some "array") :
      Unwraps s 0 (some s)
  | bare {s : Schema} (htype : s.type = some "array")
      (hitems : s.items = none) : Unwraps s 1 none
  | items {s t : Schema} {n : Nat} {last : Option Schema}
      (htype : s.type = some "array") (hitems : s.items = some t)
      (hinner : Unwraps t n last) : Unwraps s (n + 1) last

/-- An object, declared as one or not declared at all, that refers to a
model by a name. -/
def RefersTo (s : Schema) (name : String) : Prop :=
  (s.type = some "object" ∨ s.type = none) ∧ name ≠ ""
    ∧ ∃ reference,
        s.reference = some reference ∧ Shape.Closes name reference

/-- The name of a model that is referred to holds no slash. -/
theorem RefersTo.slash_notMem {s : Schema} {name : String}
    (h : s.RefersTo name) : '/' ∉ name.toList := by
  obtain ⟨-, -, reference, -, hcloses⟩ := h
  exact hcloses.1

/-- Why nothing is known of what unwrapping ends at. -/
inductive Unknown : Option Schema → Prop
  /-- There is nothing: the innermost array does not say what it
  holds. -/
  | missing : Unknown none
  /-- It has neither a type nor a reference. -/
  | silent {s : Schema} (htype : s.type = none)
      (hreference : s.reference = none) : Unknown (some s)
  /-- It is an object and refers to nothing. -/
  | bare {s : Schema} (htype : s.type = some "object")
      (hreference : s.reference = none) : Unknown (some s)
  /-- It refers to something without a name. -/
  | nameless {s : Schema} {reference : String}
      (htype : s.type = some "object" ∨ s.type = none)
      (hreference : s.reference = some reference)
      (hname : reference = "" ∨ ∃ front, reference = front ++ "/") :
      Unknown (some s)
  /-- It has a type that is not known, whatever it refers to. -/
  | foreign {s : Schema} {type : String} (htype : s.type = some type)
      (harray : type ≠ "array") (hobject : type ≠ "object")
      (hprimitive : ∀ kind : Primitive, type ≠ kind.keyword) :
      Unknown (some s)

-- ============================================================= unwrapping

variable {s : Schema} {n : Nat} {last : Option Schema}

/-- What holds of a schema if it holds of its items holds of every
schema. -/
theorem induct_items {motive : Schema → Prop}
    (step : ∀ s, (∀ t, s.items = some t → motive t) → motive s) :
    ∀ s, motive s
  | ⟨_, none, _, _, _⟩ => step _ fun _ h => nomatch h
  | ⟨_, some t, _, _, _⟩ => step _ fun _ h =>
      Option.some.inj h ▸ induct_items step t

/-- Every schema unwraps. -/
theorem exists_unwraps (s : Schema) : ∃ n last, s.Unwraps n last := by
  induction s using induct_items with
  | step s ih =>
      by_cases htype : s.type = some "array"
      · cases hitems : s.items with
        | none => exact ⟨1, none, .bare htype hitems⟩
        | some t =>
            obtain ⟨n, last, hinner⟩ := ih t hitems
            exact ⟨n + 1, last, .items htype hitems hinner⟩
      · exact ⟨0, some s, .leaf htype⟩

/-- A schema unwraps in one way only. -/
theorem Unwraps.unique (h : s.Unwraps n last) {m : Nat}
    {other : Option Schema} (hother : s.Unwraps m other) :
    m = n ∧ other = last := by
  induction h generalizing m with
  | leaf htype =>
      cases hother with
      | leaf _ => exact ⟨rfl, rfl⟩
      | bare harray _ => exact absurd harray htype
      | items harray _ _ => exact absurd harray htype
  | bare htype hitems =>
      cases hother with
      | leaf hne => exact absurd htype hne
      | bare _ _ => exact ⟨rfl, rfl⟩
      | items _ hsome _ =>
          rw [hitems] at hsome
          cases hsome
  | items htype hitems _ ih =>
      cases hother with
      | leaf hne => exact absurd htype hne
      | bare _ hnone =>
          rw [hitems] at hnone
          cases hnone
      | items _ hsome hinner =>
          rw [hitems, Option.some.injEq] at hsome
          subst hsome
          obtain ⟨rfl, rfl⟩ := ih hinner
          exact ⟨rfl, rfl⟩

/-- Unwrapping does not end at an array. -/
theorem Unwraps.ne_array (h : s.Unwraps n last) :
    ∀ t, last = some t → t.type ≠ some "array" := by
  induction h with
  | leaf htype =>
      rintro _ ⟨⟩
      exact htype
  | bare _ _ =>
      rintro _ ⟨⟩
  | items _ _ _ ih => exact ih

-- ================================================================ the end

/-- An object that refers to something refers to a model, unless what it
refers to has no name. -/
theorem unknown_or_refersTo {reference : String}
    (htype : s.type = some "object" ∨ s.type = none)
    (hreference : s.reference = some reference) :
    Unknown (some s) ∨ ∃ name, s.RefersTo name := by
  cases hname : Shape.referenced? reference with
  | none =>
      exact .inl (.nameless htype hreference
        (Shape.referenced?_eq_none_iff.1 hname))
  | some name =>
      obtain ⟨hne, hcloses⟩ := Shape.referenced?_eq_some_iff.1 hname
      exact .inr ⟨name, htype, hne, reference, hreference, hcloses⟩

/-- A leaf is of a primitive type, or refers to a model, or nothing is
known of it. -/
theorem leaf_cases (h : s.type ≠ some "array") :
    (∃ kind : Primitive, s.type = some kind.keyword)
      ∨ (∃ name, s.RefersTo name) ∨ Unknown (some s) := by
  cases htype : s.type with
  | none =>
      cases hreference : s.reference with
      | none => exact .inr (.inr (.silent htype hreference))
      | some reference =>
          exact .inr (unknown_or_refersTo (.inr htype) hreference).symm
  | some type =>
      by_cases hobject : type = "object"
      · subst hobject
        cases hreference : s.reference with
        | none => exact .inr (.inr (.bare htype hreference))
        | some reference =>
            exact .inr (unknown_or_refersTo (.inl htype) hreference).symm
      · by_cases hprimitive : ∃ kind : Primitive, type = kind.keyword
        · obtain ⟨kind, rfl⟩ := hprimitive
          exact .inl ⟨kind, rfl⟩
        · have harray : type ≠ "array" := fun heq => h (heq ▸ htype)
          exact .inr (.inr (.foreign htype harray hobject
            (not_exists.1 hprimitive)))

/-- What is unknown has no primitive type. -/
theorem Unknown.type_ne (h : Unknown (some s)) (kind : Primitive) :
    s.type ≠ some kind.keyword := by
  have hobject : kind.keyword ≠ "object" := by
    cases kind <;> decide
  intro heq
  cases h with
  | silent htype _ =>
      rw [htype] at heq
      cases heq
  | bare htype _ =>
      rw [htype] at heq
      exact hobject (Option.some.inj heq).symm
  | nameless htype _ _ =>
      rw [heq] at htype
      rcases htype with htype | htype
      · exact hobject (Option.some.inj htype)
      · cases htype
  | foreign htype _ _ hprimitive =>
      rw [htype] at heq
      exact hprimitive kind (Option.some.inj heq)

/-- What is unknown refers to no model. -/
theorem Unknown.not_refersTo (h : Unknown (some s)) (name : String) :
    ¬ s.RefersTo name := by
  rintro ⟨hobject, hname, reference, hsome, hcloses⟩
  cases h with
  | silent _ hreference =>
      rw [hreference] at hsome
      cases hsome
  | bare _ hreference =>
      rw [hreference] at hsome
      cases hsome
  | nameless _ hreference hnameless =>
      rw [hreference, Option.some.injEq] at hsome
      subst hsome
      have hsome := Shape.referenced?_eq_some_iff.2 ⟨hname, hcloses⟩
      rw [Shape.referenced?_eq_none_iff.2 hnameless] at hsome
      cases hsome
  | foreign htype _ hne _ =>
      rw [htype] at hobject
      rcases hobject with hobject | hobject
      · exact hne (Option.some.inj hobject)
      · cases hobject

/-- Nothing is known of what unwrapping ends at exactly if it is neither
of a primitive type nor refers to a model. -/
theorem unknown_iff (hlast : ∀ t, last = some t → t.type ≠ some "array") :
    Unknown last ↔ ∀ t, last = some t →
      (∀ kind : Primitive, t.type ≠ some kind.keyword)
      ∧ ∀ name, ¬ t.RefersTo name := by
  constructor
  · rintro h t rfl
    exact ⟨h.type_ne, h.not_refersTo⟩
  · intro h
    cases last with
    | none => exact .missing
    | some t =>
        obtain ⟨hprimitive, hmodel⟩ := h t rfl
        rcases leaf_cases (hlast t rfl) with hkind | hname | hunknown
        · obtain ⟨kind, hkind⟩ := hkind
          exact absurd hkind (hprimitive kind)
        · obtain ⟨name, hname⟩ := hname
          exact absurd hname (hmodel name)
        · exact hunknown

end SchemaPress.Schema
