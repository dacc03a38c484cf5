/-
What the elements of a template yield, kind by kind.

Each rule says what an element yields in a setting without indentation,
given what its one argument leads to. The rules for loops go one step
further and hide the blocks: a loop over an object yields the texts of
its fields in their order, where the text of a field is what the body
yields in any scope over its value, with its name as the key
(`each_object_yields`); a loop over an array yields the texts of its
items (`each_array_yields`).
-/
import SchemaPress.Proofs.Template.Scope
import SchemaPress.Proofs.Template.Yield

namespace SchemaPress.Template

open Rendering

variable {render : Setting → Template → Rendering String} {s : Setting}

-- ============================================================= arguments

/-- A single argument is what it refers to. -/
theorem evaluate_reference {scope : Scope} {target : Reference}
    {found : Found} (h : scope.resolve target = .ok found) :
    Arguments.evaluate scope ⟨[.reference target], []⟩
      = .ok ⟨[found], []⟩ := by
  simp only [Arguments.evaluate, Expr.evaluateAll, Expr.evaluate,
    Expr.evaluateOptions, h]
  rfl

theorem helperNamed_eq {name : String} {helper : Helper}
    (h : Helper.ofName? name = some helper) :
    helperNamed name = .ok helper := by
  rw [helperNamed, h]

-- ========================================================== text and values

/-- Text is written as it is. -/
theorem text_yields (hindent : s.indent = "") (text : String) :
    Yields (Element.render render s (.text text)) text := by
  rw [Element.render]
  exact write_yields hindent text

/-- A reference that no helper has the name of yields what it leads to. -/
theorem value_yields (hindent : s.indent = "") {target : Reference}
    (hname : Helper.ofName? target.spelling = none) {found : Found}
    (h : s.scope.resolve target = .ok found) :
    Yields (Element.render render s (.value (.reference target)))
      found.shown := by
  rw [Element.render]
  unfold writeValue
  refine (yields_pure target.spelling).bind ?_
  simp only [hname]
  refine (yields_lift ?_).bind (write_yields hindent _)
  rw [Expr.evaluate, h]

/-- The key of a loop is written as text. -/
theorem key_yields (hindent : s.indent = "") {name : String}
    (h : s.scope.local? 0 "key" = some (.string name)) :
    Yields (Element.render render s (.value (.reference .key))) name := by
  have hresolve : s.scope.resolve .key
      = .ok (.ofValue? (some (.string name))) := by
    rw [← h]
    rfl
  have hhelper : Helper.ofName? Reference.key.spelling = none := by
    decide
  exact value_yields hindent hhelper hresolve

/-- The helper of a language yields the type of what it is given. -/
theorem typeName_yields (language : Language) {target : Reference}
    {found : Found} (h : s.scope.resolve target = .ok found) :
    Yields (Element.render render s
        (.call language.helper ⟨[.reference target], []⟩))
      (Helper.typeOf language found.json) := by
  have hhelper : Helper.ofName? language.helper
      = some (.typeName language) := by
    cases language <;> decide
  rw [Element.render]
  refine (yields_lift (evaluate_reference h)).bind ?_
  refine (yields_lift (helperNamed_eq hhelper)).bind ?_
  exact (yields_lift rfl).bind (yields_pure _)

-- ================================================================= choices

/-- A choice without a second body yields its body or nothing. -/
theorem choice_yields {target : Reference} {found : Found}
    (h : s.scope.resolve target = .ok found) (alone : Bool)
    {body : Template} {text : String}
    (hbody : Yields (renderAll render s body) text) :
    Yields (Element.render render s
        (.block "if" ⟨[.reference target], []⟩ [] alone body none))
      (if found.json.isTruthy false then text else "") := by
  have hhelper : Helper.ofName? "if" = some (.choice false) := by decide
  have hchooses : Helper.chooses false ⟨[found], []⟩
      = .ok (found.json.isTruthy false) := by
    show Except.ok (found.json.isTruthy false != false) = _
    rw [Bool.bne_false]
  rw [Element.render]
  refine (yields_lift (evaluate_reference h)).bind ?_
  refine (yields_lift (helperNamed_eq hhelper)).bind ?_
  refine Yields.ofBlock alone ?_
  refine (yields_lift hchooses).bind ?_
  split
  · exact hbody.named none
  · rw [renderOwn]
    exact (yields_pure none).bind (yields_pure _)

-- =================================================================== loops

/-- A loop without a second body yields the texts of its rounds. -/
theorem each_yields {ι : Type} {target : Reference} {found : Found}
    (h : s.scope.resolve target = .ok found) (alone : Bool)
    {body : Template} {items : List ι} {toBlock : ι → Block}
    {text : ι → String}
    (hblocks : Block.ofItems [] found = items.map toBlock)
    (hbody : ∀ x ∈ items,
      Yields (renderAll render (s.enter (toBlock x)) body) (text x)) :
    Yields (Element.render render s
        (.block "each" ⟨[.reference target], []⟩ [] alone body none))
      (String.join (items.map text)) := by
  have hhelper : Helper.ofName? "each" = some .each := by decide
  rw [Element.render]
  refine (yields_lift (evaluate_reference h)).bind ?_
  refine (yields_lift (helperNamed_eq hhelper)).bind ?_
  refine Yields.ofBlock alone ?_
  refine (yields_lift rfl).bind ?_
  rw [hblocks]
  cases items with
  | nil =>
      show Yields (do return (← renderOwn render s none).getD "") _
      rw [renderOwn]
      exact (yields_pure none).bind (yields_pure _)
  | cons x rest =>
      refine Yields.enclosed (forEach_yields ?_)
      intro y hy
      exact (hbody y hy).named none

theorem map_snd_numbered {α : Type} (start : Nat) (xs : List α) :
    (Block.numbered start xs).map Prod.snd = xs := by
  induction xs generalizing start with
  | nil => rfl
  | cons x rest ih => rw [Block.numbered, List.map_cons, ih]

/-- A member and its number: counted from the start, it stands there. -/
theorem getElem?_of_mem_numbered {α : Type} {start i : Nat} {x : α}
    {xs : List α} (h : (i, x) ∈ Block.numbered start xs) :
    start ≤ i ∧ xs[i - start]? = some x := by
  induction xs generalizing start with
  | nil => cases h
  | cons first rest ih =>
      rw [Block.numbered] at h
      rcases List.mem_cons.1 h with heq | hrest
      · cases heq
        exact ⟨Nat.le_refl _, by simp⟩
      · obtain ⟨hle, hget⟩ := ih hrest
        have hsub : i - start = i - (start + 1) + 1 := by omega
        refine ⟨by omega, ?_⟩
        rw [hsub, List.getElem?_cons_succ]
        exact hget

theorem join_numbered {α : Type} (text : α → String) (xs : List α) :
    String.join ((Block.numbered 0 xs).map fun x => text x.2)
      = String.join (xs.map text) := by
  have hmap : (Block.numbered 0 xs).map (fun x => text x.2)
      = ((Block.numbered 0 xs).map Prod.snd).map text := by
    rw [List.map_map]
    rfl
  rw [hmap, map_snd_numbered]

theorem numbered_map {α β : Type} (f : α → β) (start : Nat)
    (xs : List α) :
    Block.numbered start (xs.map f)
      = (Block.numbered start xs).map fun x => (x.1, f x.2) := by
  induction xs generalizing start with
  | nil => rfl
  | cons x rest ih =>
      rw [List.map_cons, Block.numbered, Block.numbered, List.map_cons, ih]

variable {value : Json}

/-- A loop over an object that was written from fields with distinct
names yields the texts of the fields. -/
theorem each_object_yields {α : Type} {toJson : α → Json}
    (hover : s.scope.Over value) {target : Reference} {found : Found}
    (h : s.scope.resolve target = .ok found) {fields : Fields α}
    (hfound : found.Reached s.scope
      (.object (Fields.mapValues toJson fields)))
    (hnodup : (Fields.names fields).Nodup) (alone : Bool)
    {body : Template} {text : String × α → String}
    (hbody : ∀ entry ∈ fields, ∀ scope : Scope,
      scope.Over (toJson entry.2) →
      scope.local? 0 "key" = some (.string entry.1) →
      Yields (renderAll render { s with scope } body) (text entry)) :
    Yields (Element.render render s
        (.block "each" ⟨[.reference target], []⟩ [] alone body none))
      (String.join (fields.map text)) := by
  have hnames : (Fields.names (Fields.mapValues toJson fields)).Nodup := by
    rw [Fields.names_mapValues]
    exact hnodup
  have hblocks : Block.ofItems [] found
      = (Block.numbered 0 fields).map fun x =>
          Block.ofItem [] found (Fields.mapValues toJson fields).length
            x.1 (some x.2.1) (toJson x.2.2) := by
    rw [Block.ofItems, hfound.json_eq]
    show (Block.numbered 0 (Fields.mapValues toJson fields)).map _ = _
    rw [Fields.mapValues, numbered_map, List.map_map]
    rfl
  rw [← join_numbered text fields]
  refine each_yields h alone hblocks ?_
  rintro ⟨i, name, item⟩ hx
  have hmem : (name, item) ∈ fields :=
    List.mem_of_getElem? (getElem?_of_mem_numbered hx).2
  have hwritten : (name, toJson item) ∈ Fields.mapValues toJson fields :=
    List.mem_map_of_mem hmem
  obtain ⟨hinner, hkey⟩ := hover.enter_field hfound hnames
    (Fields.mapValues toJson fields).length i hwritten
  exact hbody (name, item) hmem _ hinner hkey

/-- A loop over an array that was written from a list yields the texts of
the members. -/
theorem each_array_yields {α : Type} {toJson : α → Json}
    (hover : s.scope.Over value) {target : Reference} {found : Found}
    (h : s.scope.resolve target = .ok found) {xs : List α}
    (hfound : found.Reached s.scope (.array (xs.map toJson)))
    (alone : Bool) {body : Template} {text : α → String}
    (hbody : ∀ x ∈ xs, ∀ scope : Scope, scope.Over (toJson x) →
      Yields (renderAll render { s with scope } body) (text x)) :
    Yields (Element.render render s
        (.block "each" ⟨[.reference target], []⟩ [] alone body none))
      (String.join (xs.map text)) := by
  have hblocks : Block.ofItems [] found
      = (Block.numbered 0 xs).map fun x =>
          Block.ofItem [] found (xs.map toJson).length x.1 none
            (toJson x.2) := by
    rw [Block.ofItems, hfound.json_eq]
    show (Block.numbered 0 (xs.map toJson)).map _ = _
    rw [numbered_map, List.map_map]
    rfl
  rw [← join_numbered text xs]
  refine each_yields h alone hblocks ?_
  rintro ⟨i, x⟩ hx
  have hget : xs[i]? = some x := (getElem?_of_mem_numbered hx).2
  have hitem : (xs.map toJson)[i]? = some (toJson x) := by
    rw [List.getElem?_map, hget]
    rfl
  exact hbody x (List.mem_of_getElem? hget) _
    (hover.enter_item hfound _ hitem)

end SchemaPress.Template
