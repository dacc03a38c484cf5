/-
Scopes that stand over a value in the data.

A loop remembers the place it has reached as a way into the data, and
what is referred to inside it is looked up from the root again, along
that way. The proofs do not want to speak of ways. `Scope.Over` says of a
scope only what it stands over: the way of its innermost block leads to
that value, and no block binds a name that could get in between. Then

- a reference to names leads to what the value has under them
  (`Over.resolve_some`, `Over.resolve_none`), and what is found can be
  entered (`Found.Reached`);
- entering an item of what has been found gives a scope over the item
  (`Over.enter_field`, `Over.enter_item`). For an object this takes
  distinct names, since the way back to the item is its name.

An array is entered by position, and a position is found again by the
numeral that spells it (`index?_toString`).
-/
import SchemaPress.Proofs.Fields
import SchemaPress.Template.Rendering

namespace SchemaPress.Template

-- ============================================================ references

namespace Reference

/-- A reference to names, without steps outward. -/
def plain (spelling : String) (names : List String) : Reference :=
  ⟨spelling, false, false, 0, names⟩

/-- The reference to the key of the innermost loop. -/
def key : Reference := ⟨"@key", false, true, 0, ["key"]⟩

end Reference

-- ================================================================== ways

/-- A way goes on from where its front part leads to. -/
theorem follow_append {value between : Json} {front : List String}
    (h : follow value front = .ok (some between)) (rest : List String) :
    follow value (front ++ rest) = follow between rest := by
  induction front generalizing value with
  | nil =>
      cases h
      rfl
  | cons name names ih =>
      rw [List.cons_append, follow]
      rw [follow] at h
      cases hmember : member value name with
      | error e => rw [hmember] at h; cases h
      | ok found =>
          rw [hmember] at h
          cases found with
          | none => cases h
          | some next => exact ih h

theorem index?_toString {count position : Nat} (h : position < count) :
    index? count (toString position) = some position := by
  have hdigits : (toString position).toList = Nat.toDigits 10 position := by
    rw [Nat.toString_eq_ofList_toDigits, String.toList_ofList]
  have hall : ∀ c ∈ Nat.toDigits 10 position, c.isDigit = true :=
    fun c hc => Nat.isDigit_of_mem_toDigits (by decide) (by decide) hc
  have hvalue : (Nat.toDigits 10 position).foldl
      (fun n c => n * 10 + (c.toNat - '0'.toNat)) 0 = position := by
    have := Nat.ofDigitChars_ten_toDigits (n := position)
    rw [Nat.ofDigitChars_eq_foldl] at this
    simpa [Nat.mul_comm] using this
  unfold index?
  rw [hdigits]
  cases hlist : Nat.toDigits 10 position with
  | nil => exact absurd hlist Nat.toDigits_ne_nil
  | cons c rest =>
      have hplus : c ≠ '+' := by
        intro hc
        have := hall c (hlist ▸ List.mem_cons_self ..)
        rw [hc] at this
        exact absurd this (by decide)
      rw [hlist] at hall hvalue
      have hcheck : (!(c :: rest).all Char.isDigit) = false := by
        rw [List.all_eq_true.2 hall]
        rfl
      have hbound : position < max indexLimit count :=
        Nat.lt_of_lt_of_le h (Nat.le_max_right _ _)
      split
      next digits hmatch =>
        exact absurd (List.cons.inj hmatch).1 hplus
      next =>
        simp only [List.isEmpty_cons, Bool.false_or, hcheck, hvalue]
        exact if_pos hbound

theorem member_item {items : List Json} {position : Nat} {item : Json}
    (h : items[position]? = some item) :
    member (.array items) (toString position) = .ok (some item) := by
  have hlt : position < items.length :=
    (List.getElem?_eq_some_iff.1 h).1
  rw [member, index?_toString hlt]
  exact congrArg Except.ok h

-- ================================================================= scopes

/-- Something found in the data, which a scope's data lead to. -/
structure Found.Reached (s : Scope) (value : Json) (found : Found) :
    Prop where
  value?_eq : found.value? = some value
  exists_way : ∃ way, found.way? = some way
    ∧ follow s.data way = .ok (some value)

theorem Found.Reached.json_eq {s : Scope} {value : Json} {found : Found}
    (h : found.Reached s value) : found.json = value := by
  rw [Found.json, h.value?_eq]
  rfl

namespace Scope

/-- A scope whose innermost block stands over a value in the data, and in
which no block binds a name. -/
structure Over (value : Json) (s : Scope) : Prop where
  innermost : ∃ block around, s.blocks = block :: around
    ∧ block.value? = none
    ∧ follow s.data block.way = .ok (some value)
  unbound : ∀ block ∈ s.blocks, block.parameters = []

/-- The scope of a template stands over the data. -/
theorem ofData_over (data : Json) : (Scope.ofData data).Over data where
  innermost := ⟨.ofWay [], [], rfl, rfl, rfl⟩
  unbound := by
    intro block hblock
    rw [List.mem_singleton.1 hblock]
    rfl

variable {s : Scope} {value : Json}

theorem bound?_eq_none (h : ∀ block ∈ s.blocks, block.parameters = [])
    (names : List String) : s.bound? names = none := by
  cases names with
  | nil => rfl
  | cons name rest =>
      have hnone : ∀ blocks : List Block,
          (∀ block ∈ blocks, block.parameters = []) →
          binding? name blocks = none := by
        intro blocks
        induction blocks with
        | nil => intro _; rfl
        | cons block around ih =>
            intro hall
            rw [binding?, hall block (List.mem_cons_self ..)]
            exact ih fun b hb => hall b (List.mem_cons_of_mem _ hb)
      rw [bound?, hnone s.blocks h]
      rfl

/-- A reference to names is followed from the value that the scope stands
over. -/
theorem Over.resolve_eq (h : s.Over value) (spelling : String)
    (names : List String) :
    ∃ way, follow s.data way = .ok (some value)
      ∧ s.resolve (.plain spelling names) = s.reach (way ++ names) := by
  obtain ⟨block, around, hblocks, hnone, hfollow⟩ := h.innermost
  obtain ⟨way, value?, locals, parameters⟩ := block
  cases hnone
  refine ⟨way, hfollow, ?_⟩
  have hbound := bound?_eq_none h.unbound names
  simp only [resolve, Reference.plain, Bool.false_eq_true, if_false,
    hbound]
  rw [block?, hblocks]
  rfl

/-- What names lead to is found where they are referred to. -/
theorem Over.resolve_some (h : s.Over value) (spelling : String)
    {names : List String} {v : Json}
    (hfollow : follow value names = .ok (some v)) :
    ∃ found, s.resolve (.plain spelling names) = .ok found
      ∧ found.Reached s v := by
  obtain ⟨way, hway, hresolve⟩ := h.resolve_eq spelling names
  have hreach : follow s.data (way ++ names) = .ok (some v) := by
    rw [follow_append hway, hfollow]
  refine ⟨⟨some v, some (way ++ names)⟩, ?_, rfl, _, rfl, hreach⟩
  rw [hresolve, reach, hreach]
  rfl

/-- What names do not lead to is missing where they are referred to. -/
theorem Over.resolve_none (h : s.Over value) (spelling : String)
    {names : List String} (hfollow : follow value names = .ok none) :
    s.resolve (.plain spelling names) = .ok .missing := by
  obtain ⟨way, hway, hresolve⟩ := h.resolve_eq spelling names
  rw [hresolve, reach, follow_append hway, hfollow]
  rfl

/-- A reference to a field finds its value, or nothing if there is no
such field. -/
theorem Over.resolve_field {fields : Fields Json}
    (h : s.Over (.object fields)) (spelling name : String) :
    ∃ found, s.resolve (.plain spelling [name]) = .ok found
      ∧ found.json = (Fields.get? name fields).getD .null := by
  cases hget : Fields.get? name fields with
  | none =>
      have hfollow : follow (.object fields) [name] = .ok none := by
        rw [follow, member, hget]
        rfl
      exact ⟨.missing, h.resolve_none spelling hfollow, rfl⟩
  | some v =>
      have hfollow : follow (.object fields) [name] = .ok (some v) := by
        rw [follow, member, hget]
        rfl
      obtain ⟨found, hresolve, hreached⟩ :=
        h.resolve_some spelling hfollow
      exact ⟨found, hresolve, hreached.json_eq⟩

/-- A reference to no names finds what the scope stands over. -/
theorem Over.resolve_this (h : s.Over value) (spelling : String) :
    ∃ found, s.resolve (.plain spelling []) = .ok found
      ∧ found.Reached s value :=
  h.resolve_some spelling rfl

-- =============================================================== entering

/-- A block over a way to an item stands over the item. -/
theorem Over.enter (h : s.Over value) {block : Block} {item : Json}
    (hvalue : block.value? = none) (hparameters : block.parameters = [])
    (hway : follow s.data block.way = .ok (some item)) :
    (s.enter block).Over item where
  innermost := ⟨block, s.blocks, rfl, hvalue, hway⟩
  unbound := by
    intro b hb
    rcases List.mem_cons.1 hb with rfl | hrest
    · exact hparameters
    · exact h.unbound b hrest

/-- A round of a loop over an object stands over the value of a field,
and its key is the name. -/
theorem Over.enter_field (h : s.Over value) {found : Found}
    {fields : Fields Json} (hfound : found.Reached s (.object fields))
    (hnodup : (Fields.names fields).Nodup) (count position : Nat)
    {name : String} {item : Json} (hmem : (name, item) ∈ fields) :
    let inner := s.enter
      (Block.ofItem [] found count position (some name) item)
    inner.Over item ∧ inner.local? 0 "key" = some (.string name) := by
  obtain ⟨way, hway, hfollow⟩ := hfound.exists_way
  have hitem : follow s.data (way ++ [name]) = .ok (some item) := by
    rw [follow_append hfollow, follow, member,
      Fields.get?_of_mem hnodup hmem]
    rfl
  have hblock : Block.ofItem [] found count position (some name) item
      = { Block.ofWay (way ++ [name]) with
          locals := Block.itemLocals position count (some name) } := by
    unfold Block.ofItem
    rw [hway]
    rfl
  intro inner
  refine ⟨h.enter ?_ ?_ ?_, ?_⟩
  · rw [hblock]; rfl
  · rw [hblock]; rfl
  · rw [hblock]; exact hitem
  · show (inner.block? 0).bind _ = _
    rw [show inner.block? 0 = some _ from rfl, hblock]
    rfl

/-- A round of a loop over an array stands over an item. -/
theorem Over.enter_item (h : s.Over value) {found : Found}
    {items : List Json} (hfound : found.Reached s (.array items))
    (count : Nat) {position : Nat} {item : Json}
    (hitem : items[position]? = some item) :
    (s.enter (Block.ofItem [] found count position none item)).Over
      item := by
  obtain ⟨way, hway, hfollow⟩ := hfound.exists_way
  have hmember : follow s.data (way ++ [toString position])
      = .ok (some item) := by
    rw [follow_append hfollow, follow, member_item hitem]
    rfl
  have hblock : Block.ofItem [] found count position none item
      = { Block.ofWay (way ++ [toString position]) with
          locals := Block.itemLocals position count none } := by
    unfold Block.ofItem
    rw [hway]
    rfl
  refine h.enter ?_ ?_ ?_
  · rw [hblock]; rfl
  · rw [hblock]; rfl
  · rw [hblock]; exact hmember

end Scope

end SchemaPress.Template
