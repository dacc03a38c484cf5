/-
When elements can be rendered.

Whether rendering succeeds matters where it may fail, and with nothing to
include the progress has no say in it. `SucceedsIff` says of a rendering
that it succeeds under a condition and fails otherwise, from every
progress. The text is left open, so the rules need no setting without
indentation, and steps in a row succeed if each of them does
(`SucceedsIff.bind`).

What can fail in a template without inclusions is a reference, and a
reference by name fails over an array only, which has no names
(`Scope.Over.resolve_ok_iff`). So the rules for elements are about the
value that the scope stands over: a place for a field can be filled if
that is no array (`slot_succeedsIff`), and a loop over a field can be run
if its body can be rendered over each of the members
(`loop_succeedsIff`).
-/
import SchemaPress.Proofs.Template.BuiltIn
import SchemaPress.Proofs.Template.Element
import SchemaPress.Proofs.Yaml.Shape

namespace SchemaPress

namespace Json

/-- Whether a value is an array. -/
def isArray : Json → Bool
  | .array _ => true
  | _ => false

/-- What a loop over a value goes through. -/
def members : Json → List Json
  | .array items => items
  | .object fields => fields.map Prod.snd
  | _ => []

end Json

namespace Template

namespace Rendering

variable {α β : Type} {p q : Prop}

/-- A rendering that succeeds under a condition, and only then, whatever
the progress is. -/
def SucceedsIff (p : Prop)
    (rendering : StateT Progress (Except RenderError) α) : Prop :=
  ∀ before, (∃ result, rendering.run before = .ok result) ↔ p

-- ================================================================== steps

theorem SucceedsIff.congr
    {rendering : StateT Progress (Except RenderError) α}
    (h : SucceedsIff p rendering) (hiff : p ↔ q) :
    SucceedsIff q rendering :=
  fun before => (h before).trans hiff

theorem Yields.succeedsIff
    {rendering : StateT Progress (Except RenderError) α} {value : α}
    (h : Yields rendering value) : SucceedsIff True rendering := by
  intro before
  obtain ⟨after, hafter⟩ := h before
  exact iff_true_intro ⟨_, hafter⟩

/-- Steps in a row succeed if each of them does. -/
theorem SucceedsIff.bind
    {step : StateT Progress (Except RenderError) α}
    {next : α → StateT Progress (Except RenderError) β}
    (hstep : SucceedsIff p step) (hnext : ∀ a, SucceedsIff q (next a)) :
    SucceedsIff (p ∧ q) (step >>= next) := by
  intro before
  rw [StateT.run_bind]
  cases hrun : step.run before with
  | error e =>
      have hp : ¬p := by
        rw [← hstep before, hrun]
        rintro ⟨_, ⟨⟩⟩
      constructor
      · rintro ⟨_, ⟨⟩⟩
      · exact fun h => absurd h.1 hp
  | ok result =>
      have hp : p := (hstep before).1 ⟨_, hrun⟩
      exact (hnext result.1 result.2).trans (and_iff_right hp).symm

theorem succeedsIff_pure (value : α) :
    SucceedsIff True
      (pure value : StateT Progress (Except RenderError) α) :=
  (yields_pure value).succeedsIff

/-- What comes before or behind and always succeeds does not count. -/
theorem SucceedsIff.after
    {step : StateT Progress (Except RenderError) α}
    {next : α → StateT Progress (Except RenderError) β}
    (hstep : SucceedsIff True step) (hnext : ∀ a, SucceedsIff p (next a)) :
    SucceedsIff p (step >>= next) :=
  (hstep.bind hnext).congr (iff_of_eq (true_and p))

theorem SucceedsIff.before
    {step : StateT Progress (Except RenderError) α}
    {next : α → StateT Progress (Except RenderError) β}
    (hstep : SucceedsIff p step) (hnext : ∀ a, SucceedsIff True (next a)) :
    SucceedsIff p (step >>= next) :=
  (hstep.bind hnext).congr (iff_of_eq (and_true p))

theorem succeedsIff_get
    {next : Progress → StateT Progress (Except RenderError) α}
    (h : ∀ progress, SucceedsIff p (next progress)) :
    SucceedsIff p (get >>= next) :=
  fun before => h before before

theorem succeedsIff_modify (change : Progress → Progress) :
    SucceedsIff True (modify change : Rendering PUnit) :=
  (yields_modify change).succeedsIff

/-- What follows a step that does not touch the progress and succeeds
with a value. -/
theorem succeedsIff_lift {outcome : Except RenderError α} {a : α}
    (houtcome : outcome = .ok a)
    {next : α → StateT Progress (Except RenderError) β}
    (h : SucceedsIff p (next a)) :
    SucceedsIff p ((liftM outcome : StateT Progress _ α) >>= next) := by
  subst houtcome
  exact h

/-- Nothing follows a step that fails. -/
theorem succeedsIff_error {outcome : Except RenderError α}
    {e : RenderError} (houtcome : outcome = .error e)
    (next : α → StateT Progress (Except RenderError) β) :
    SucceedsIff False
      ((liftM outcome : StateT Progress _ α) >>= next) := by
  subst houtcome
  intro before
  constructor
  · rintro ⟨_, ⟨⟩⟩
  · exact False.elim

-- ============================================================ surroundings

variable {rendering : Rendering String}

theorem SucceedsIff.named (name : Option String)
    (h : SucceedsIff p rendering) :
    SucceedsIff p (Rendering.named name rendering) :=
  (succeedsIff_modify _).after fun _ => h

theorem SucceedsIff.enclosed (h : SucceedsIff p rendering) :
    SucceedsIff p (Rendering.enclosed rendering) :=
  succeedsIff_get fun _ => h.before fun text =>
    (succeedsIff_modify _).after fun _ => succeedsIff_pure text

theorem SucceedsIff.ofBlock (alone : Bool) (h : SucceedsIff p rendering) :
    SucceedsIff p (Rendering.ofBlock alone rendering) := by
  refine succeedsIff_get fun before => ?_
  have hset : ∀ progress, SucceedsIff True
      (set progress : Rendering PUnit) :=
    fun progress _ => iff_true_intro ⟨((), progress), rfl⟩
  exact (hset _).after fun _ => h.before fun text =>
    (succeedsIff_modify _).after fun _ => succeedsIff_pure text

end Rendering

open Rendering

-- ================================================================= bodies

variable {render : Setting → Template → Rendering String} {s : Setting}
  {p q : Prop}

/-- Writing succeeds. -/
theorem write_succeeds (s : Setting) (text : String) :
    SucceedsIff True (write s text) := by
  unfold write
  dsimp only
  split
  · exact succeedsIff_get fun _ =>
      (succeedsIff_modify _).after fun _ => succeedsIff_pure _
  · exact succeedsIff_pure _

theorem text_succeeds (text : String) :
    SucceedsIff True (Element.render render s (.text text)) := by
  rw [Element.render]
  exact write_succeeds s text

theorem renderAll_succeedsIff_nil :
    SucceedsIff True (renderAll render s []) := by
  rw [renderAll]
  exact succeedsIff_pure _

/-- A body can be rendered if its elements can. -/
theorem renderAll_succeedsIff_cons {element : Element} {rest : Template}
    (hfirst : SucceedsIff p (element.render render s))
    (hmore : SucceedsIff q (renderAll render s rest)) :
    SucceedsIff (p ∧ q) (renderAll render s (element :: rest)) := by
  rw [renderAll]
  exact hfirst.bind fun _ => hmore.before fun _ => succeedsIff_pure _

/-- A loop can be run if each of its rounds can. -/
theorem forEach_succeedsIff {ι : Type} {items : List ι}
    {toBlock : ι → Block} {body : Block → Rendering String}
    {fits : ι → Prop}
    (h : ∀ x ∈ items, SucceedsIff (fits x) (body (toBlock x))) :
    SucceedsIff (∀ x ∈ items, fits x)
      (forEach (items.map toBlock) body) := by
  induction items with
  | nil =>
      rw [List.map_nil, forEach]
      exact (succeedsIff_pure _).congr (by simp)
  | cons x rest ih =>
      rw [List.map_cons, forEach]
      have hrest := ih fun y hy => h y (List.mem_cons_of_mem _ hy)
      refine SucceedsIff.congr ?_ List.forall_mem_cons.symm
      exact (h x (List.mem_cons_self ..)).bind fun _ =>
        hrest.before fun _ => succeedsIff_pure _

-- =============================================================== elements

/-- An argument that cannot be found is a failure. -/
theorem evaluate_error {scope : Scope} {target : Reference}
    {e : RenderError} (h : scope.resolve target = .error e) :
    Arguments.evaluate scope ⟨[.reference target], []⟩ = .error e := by
  simp only [Arguments.evaluate, Expr.evaluateAll, Expr.evaluate, h]
  rfl

/-- A block cannot be rendered without its argument. -/
theorem block_succeedsIff_of_error {target : Reference} {e : RenderError}
    (h : s.scope.resolve target = .error e) (name : String) (alone : Bool)
    (body : Template) :
    SucceedsIff False (Element.render render s
      (.block name ⟨[.reference target], []⟩ [] alone body none)) := by
  rw [Element.render]
  exact succeedsIff_error (evaluate_error h) _

/-- A value can be written if it can be found. -/
theorem value_succeedsIff {target : Reference}
    (hname : Helper.ofName? target.spelling = none) :
    SucceedsIff (∃ found, s.scope.resolve target = .ok found)
      (Element.render render s (.value (.reference target))) := by
  rw [Element.render]
  unfold writeValue
  simp only [pure_bind, hname, Expr.evaluate]
  cases hresolve : s.scope.resolve target with
  | error e => exact (succeedsIff_error rfl _).congr (by simp)
  | ok found =>
      exact (succeedsIff_lift rfl (write_succeeds s _)).congr (by simp)

/-- The key of a loop can be written. -/
theorem key_succeeds :
    SucceedsIff True
      (Element.render render s (.value (.reference .key))) :=
  (value_succeedsIff (by decide)).congr
    (iff_true_intro ⟨_, rfl⟩)

/-- A choice without a second body can be rendered if its body can. -/
theorem choice_succeedsIff {target : Reference} {found : Found}
    (h : s.scope.resolve target = .ok found) (alone : Bool)
    {body : Template} (hbody : SucceedsIff True (renderAll render s body)) :
    SucceedsIff True (Element.render render s
      (.block "if" ⟨[.reference target], []⟩ [] alone body none)) := by
  have hhelper : Helper.ofName? "if" = some (.choice false) := by decide
  rw [Element.render]
  refine succeedsIff_lift (evaluate_reference h) ?_
  refine succeedsIff_lift (helperNamed_eq hhelper) ?_
  refine SucceedsIff.ofBlock alone ?_
  refine succeedsIff_lift rfl ?_
  split
  · exact hbody.named none
  · rw [renderOwn]
    exact (succeedsIff_pure none).after fun _ => succeedsIff_pure _

/-- A loop without a second body can be rendered if each of its rounds
can. -/
theorem each_succeedsIff {ι : Type} {target : Reference} {found : Found}
    (h : s.scope.resolve target = .ok found) (alone : Bool)
    {body : Template} {items : List ι} {toBlock : ι → Block}
    {fits : ι → Prop}
    (hblocks : Block.ofItems [] found = items.map toBlock)
    (hbody : ∀ x ∈ items, SucceedsIff (fits x)
      (renderAll render (s.enter (toBlock x)) body)) :
    SucceedsIff (∀ x ∈ items, fits x) (Element.render render s
      (.block "each" ⟨[.reference target], []⟩ [] alone body none)) := by
  have hhelper : Helper.ofName? "each" = some .each := by decide
  rw [Element.render]
  refine succeedsIff_lift (evaluate_reference h) ?_
  refine succeedsIff_lift (helperNamed_eq hhelper) ?_
  refine SucceedsIff.ofBlock alone ?_
  refine succeedsIff_lift rfl ?_
  rw [hblocks]
  cases items with
  | nil =>
      show SucceedsIff _ (do return (← renderOwn render s none).getD "")
      rw [renderOwn]
      have hnone : SucceedsIff True (do
          return (← (pure none : Rendering (Option String))).getD "") :=
        (succeedsIff_pure none).after fun _ => succeedsIff_pure _
      exact hnone.congr (by simp)
  | cons x rest =>
      exact (forEach_succeedsIff fun y hy =>
        (hbody y hy).named none).enclosed

-- ================================================================= fields

/-- A name that spells no position. -/
def IsName (name : String) : Prop := ∀ count, index? count name = none

variable {value : Json} {scope : Scope} {name : String}

/-- A name leads to the field of that name, unless it is asked of an
array. -/
theorem follow_name (hvalue : value.isArray = false) (name : String) :
    follow value [name] = .ok (value.field? name) := by
  cases value with
  | array items => cases hvalue
  | object fields =>
      rw [follow, member, Json.field?]
      cases Fields.get? name fields with
      | none => rfl
      | some found => rfl
  | _ => rfl

/-- An array has nothing under a name, and to ask it for a name is a
failure. -/
theorem Scope.Over.resolve_error (h : scope.Over value)
    (hvalue : value.isArray = true) (spelling : String)
    (hname : IsName name) :
    scope.resolve (.plain spelling [name]) = .error (.notAnIndex name) := by
  cases value with
  | array items =>
      obtain ⟨way, hway, hresolve⟩ := h.resolve_eq spelling [name]
      have hmember : member (.array items) name
          = .error (.notAnIndex name) := by
        rw [member, hname]
      rw [hresolve, reach, follow_append hway, follow, hmember]
      rfl
  | _ => cases hvalue

/-- A reference to a name fails over an array only. -/
theorem Scope.Over.resolve_ok_iff (h : scope.Over value)
    (spelling : String) (hname : IsName name) :
    (∃ found, scope.resolve (.plain spelling [name]) = .ok found)
      ↔ value.isArray = false := by
  cases hvalue : value.isArray with
  | true => simp [h.resolve_error hvalue spelling hname]
  | false =>
      refine iff_of_true ?_ rfl
      have hfollow := follow_name hvalue name
      cases hfield : value.field? name with
      | none =>
          rw [hfield] at hfollow
          exact ⟨_, h.resolve_none spelling hfollow⟩
      | some found =>
          rw [hfield] at hfollow
          obtain ⟨found, hresolve, -⟩ := h.resolve_some spelling hfollow
          exact ⟨found, hresolve⟩

/-- A place for a field can be filled unless it is asked of an array. -/
theorem slot_succeedsIff (hover : s.scope.Over value) (spelling : String)
    (hspelling : Helper.ofName? spelling = none) (hname : IsName name) :
    SucceedsIff (value.isArray = false)
      ((Language.slot spelling name).render render s) :=
  (value_succeedsIff hspelling).congr
    (hover.resolve_ok_iff spelling hname)

/-- A place for a type can be filled. -/
theorem typeSlot_succeeds (hover : s.scope.Over value)
    (language : Language) :
    SucceedsIff True (language.typeSlot.render render s) := by
  obtain ⟨found, hresolve, -⟩ := hover.resolve_this "this"
  exact (typeName_yields language hresolve).succeedsIff

/-- The values in a value with distinct names have distinct names. -/
theorem distinct_of_field? (hdistinct : value.Distinct) {found : Json}
    (hfield : value.field? name = some found) : found.Distinct := by
  cases hdistinct with
  | object hnodup hvalues =>
      exact hvalues _ (Fields.mem_of_get? hfield)
  | _ => cases hfield

theorem forall_mem_numbered {α : Type} {p : α → Prop} (xs : List α) :
    (∀ x ∈ Block.numbered 0 xs, p x.2) ↔ ∀ x ∈ xs, p x := by
  rw [← List.forall_mem_map (f := Prod.snd), map_snd_numbered]

/-- A loop over what is there can be run if its body can be rendered over
each of the members. -/
theorem members_succeedsIff (hover : s.scope.Over value)
    {target : Reference} {found : Found} {collection : Json}
    (h : s.scope.resolve target = .ok found)
    (hfound : found.Reached s.scope collection)
    (hdistinct : collection.Distinct) (alone : Bool) {body : Template}
    {fits : Json → Prop}
    (hbody : ∀ item : Json, item.Distinct → ∀ scope : Scope,
      scope.Over item →
      SucceedsIff (fits item) (renderAll render { s with scope } body)) :
    SucceedsIff (∀ item ∈ collection.members, fits item)
      (Element.render render s
        (.block "each" ⟨[.reference target], []⟩ [] alone body none)) := by
  cases hdistinct with
  | @array items hitems =>
      have hblocks : Block.ofItems [] found
          = (Block.numbered 0 items).map fun x =>
              Block.ofItem [] found items.length x.1 none x.2 := by
        rw [Block.ofItems, hfound.json_eq]
      refine SucceedsIff.congr (each_succeedsIff h alone hblocks ?_)
        (forall_mem_numbered (p := fits) items)
      rintro ⟨i, item⟩ hx
      have hget : items[i]? = some item := (getElem?_of_mem_numbered hx).2
      exact hbody item (hitems item (List.mem_of_getElem? hget)) _
        (hover.enter_item hfound _ hget)
  | @object fields hnodup hvalues =>
      have hblocks : Block.ofItems [] found
          = (Block.numbered 0 fields).map fun x =>
              Block.ofItem [] found fields.length x.1 (some x.2.1)
                x.2.2 := by
        rw [Block.ofItems, hfound.json_eq]
      have hmembers : (∀ entry ∈ fields, fits entry.2)
          ↔ ∀ item ∈ fields.map Prod.snd, fits item :=
        List.forall_mem_map.symm
      refine SucceedsIff.congr (each_succeedsIff h alone hblocks ?_)
        ((forall_mem_numbered
          (p := fun entry => fits entry.2) fields).trans hmembers)
      rintro ⟨i, name, item⟩ hx
      have hmem : (name, item) ∈ fields :=
        List.mem_of_getElem? (getElem?_of_mem_numbered hx).2
      exact hbody item (hvalues _ hmem) _
        (hover.enter_field hfound hnodup fields.length i hmem).1
  | _ =>
      have hblocks : Block.ofItems [] found
          = ([] : List Json).map fun _ => .ofWay [] := by
        rw [Block.ofItems, hfound.json_eq]
        rfl
      exact each_succeedsIff h alone hblocks (List.forall_mem_nil _)

/-- A loop over a field can be run if its body can be rendered over each
member of the field; over an array there is no field. -/
theorem loop_succeedsIff (hover : s.scope.Over value)
    (hdistinct : value.Distinct) (spelling : String)
    (hname : IsName name) {body : Template} {fits : Json → Prop}
    (hbody : ∀ item : Json, item.Distinct → ∀ scope : Scope,
      scope.Over item →
      SucceedsIff (fits item) (renderAll render { s with scope } body)) :
    SucceedsIff (value.isArray = false
        ∧ ∀ item ∈ ((value.field? name).getD .null).members, fits item)
      ((Language.loop spelling name body).render render s) := by
  cases hvalue : value.isArray with
  | true =>
      exact (block_succeedsIff_of_error
        (hover.resolve_error hvalue spelling hname) _ _ _).congr (by simp)
  | false =>
      have hfollow := follow_name hvalue name
      cases hfield : value.field? name with
      | none =>
          rw [hfield] at hfollow
          have hblocks : Block.ofItems [] .missing
              = ([] : List Json).map fun _ => .ofWay [] := rfl
          have hloop : SucceedsIff (∀ item ∈ ([] : List Json), fits item)
              ((Language.loop spelling name body).render render s) :=
            each_succeedsIff (hover.resolve_none spelling hfollow) true
              hblocks (List.forall_mem_nil _)
          exact hloop.congr (by simp [Json.members])
      | some found =>
          rw [hfield] at hfollow
          obtain ⟨reached, hresolve, hreached⟩ :=
            hover.resolve_some spelling hfollow
          exact (members_succeedsIff hover hresolve hreached
            (distinct_of_field? hdistinct hfield) true
            hbody).congr (by simp)

end Template

end SchemaPress
