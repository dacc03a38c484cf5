/-
Templates that include nothing.

A rendering can depend on other templates in two ways: it may include
them, and it remembers which template it is that is being rendered, so
that none includes itself. Both show in an inclusion and nowhere else. So
a template without inclusions (`inclusionFree`) renders to the same
whatever name it goes by and whatever others there are
(`render_eq_of_inclusionFree`).

# Side by side

The argument follows two renderings of one body. Their settings differ in
the templates that can be included, and their progress in the name of the
present template; the second is kept as the first under another name.
What the two come to is the same up to that name again (`Alike`), be it a
text or a failure, and that is what passes from one element to the next.
The induction is on the elements, with one rule for each combinator that
their renderings are made from.
-/
import SchemaPress.Template.Rendering

namespace SchemaPress.Template

-- ============================================================= inclusions

mutual

/-- Whether an element includes nothing, at any depth. -/
def Element.inclusionFree : Element → Bool
  | .text _ | .value _ | .call _ _ => true
  | .block _ _ _ _ body otherwise =>
      inclusionFree body && ownInclusionFree otherwise
  | .decorator _ _ body => ownInclusionFree body
  | .inclusion _ _ _ _ _ => false

/-- Whether no element of a body includes anything. -/
def inclusionFree : Template → Bool
  | [] => true
  | element :: rest => element.inclusionFree && inclusionFree rest

/-- Whether a body, if there is one, includes nothing. -/
def ownInclusionFree : Option (List Element) → Bool
  | none => true
  | some body => inclusionFree body

end

-- =========================================================== side by side

/-- The progress under another name. -/
def Progress.renamed (name : Option String) (p : Progress) : Progress :=
  { p with current := name }

namespace Rendering

variable {α β : Type}

/-- What a rendering comes to, but for the name of the template. -/
def outcome (rendering : StateT Progress (Except RenderError) α)
    (p : Progress) : Except RenderError (α × Progress) :=
  (rendering.run p).map fun result => (result.1, result.2.renamed none)

/-- Two renderings that come to the same, whatever the names of the
templates are. -/
def Alike (a b : StateT Progress (Except RenderError) α) : Prop :=
  ∀ p name, outcome a p = outcome b (p.renamed name)

-- ================================================================== steps

theorem alike_pure (value : α) :
    Alike (pure value) (pure value) :=
  fun _ _ => rfl

theorem Alike.bind {a b : StateT Progress (Except RenderError) α}
    {f g : α → StateT Progress (Except RenderError) β} (h : Alike a b)
    (hnext : ∀ value, Alike (f value) (g value)) :
    Alike (a >>= f) (b >>= g) := by
  intro p name
  have hsame := h p name
  unfold outcome at hsame ⊢
  rw [StateT.run_bind, StateT.run_bind]
  cases ha : a.run p with
  | error e =>
      rw [ha] at hsame
      cases hb : b.run (p.renamed name) with
      | error e' =>
          rw [hb] at hsame
          cases hsame
          rfl
      | ok result =>
          rw [hb] at hsame
          cases hsame
  | ok left =>
      rw [ha] at hsame
      cases hb : b.run (p.renamed name) with
      | error e =>
          rw [hb] at hsame
          cases hsame
      | ok right =>
          rw [hb] at hsame
          obtain ⟨value, q⟩ := left
          obtain ⟨other, r⟩ := right
          have hpair := Except.ok.inj hsame
          obtain rfl : value = other := congrArg Prod.fst hpair
          have hrenamed : r = q.renamed r.current := by
            have hprogress : q.renamed none = r.renamed none :=
              congrArg Prod.snd hpair
            have := congrArg (Progress.renamed r.current) hprogress
            exact this.symm
          rw [hrenamed]
          exact hnext value q r.current

/-- A step that does not touch the progress. -/
theorem alike_lift (result : Except RenderError α) :
    Alike (liftM result) (liftM result) := by
  intro p name
  cases result with
  | error e => rfl
  | ok value => rfl

theorem alike_throw (e : RenderError) :
    Alike (throw e : StateT Progress (Except RenderError) α) (throw e) :=
  fun _ _ => rfl

/-- A change of the progress that has nothing to do with the name. -/
theorem alike_modify {f g : Progress → Progress}
    (h : ∀ p name, (f p).renamed none = (g (p.renamed name)).renamed none) :
    Alike (modify f : Rendering PUnit) (modify g) := by
  intro p name
  show Except.ok (_, (f p).renamed none) = Except.ok (_, _)
  rw [h p name]

theorem alike_get {f g : Progress → Rendering String}
    (h : ∀ p name, Alike (f p) (g (p.renamed name))) :
    Alike (get >>= f) (get >>= g) :=
  fun p name => h p name p name

-- ============================================================= surroundings

variable {a b : Rendering String}

theorem Alike.named (name : Option String) (h : Alike a b) :
    Alike (Rendering.named name a) (Rendering.named name b) :=
  (alike_modify fun _ _ => rfl).bind fun _ => h

theorem Alike.enclosed (h : Alike a b) :
    Alike (Rendering.enclosed a) (Rendering.enclosed b) := by
  refine alike_get fun p name => h.bind fun text => ?_
  exact (alike_modify fun _ _ => rfl).bind fun _ => alike_pure text

theorem Alike.onLine {due : Progress → Bool}
    (hdue : ∀ p name, due p = due (p.renamed name)) (h : Alike a b) :
    Alike (Rendering.onLine due a) (Rendering.onLine due b) := by
  refine alike_get fun p name => ?_
  rw [← hdue p name]
  have hset : Alike
      (set { p with indentDue := due p, wrote := false } : Rendering PUnit)
      (set { p.renamed name with indentDue := due p, wrote := false }) :=
    fun _ _ => rfl
  refine hset.bind fun _ => h.bind fun text => ?_
  refine (alike_modify fun q other => ?_).bind fun _ => alike_pure text
  show Progress.renamed none (if q.wrote then _ else _)
    = Progress.renamed none (if q.wrote then _ else _)
  split
  · rfl
  · rfl

theorem Alike.ofBlock (alone : Bool) (h : Alike a b) :
    Alike (Rendering.ofBlock alone a) (Rendering.ofBlock alone b) :=
  h.onLine fun _ _ => rfl

end Rendering

open Rendering

-- ================================================================ elements

/-- Text does not show which template it is in. -/
theorem write_alike (s : Setting) (text : String) :
    Alike (write s text) (write s text) := by
  unfold write
  dsimp only
  split
  · refine alike_get fun p name => ?_
    refine (alike_modify fun _ _ => rfl).bind fun _ => ?_
    exact alike_pure _
  · exact alike_pure _

theorem writeHelper_alike (helper : Helper) (given : Given) :
    Alike (writeHelper helper given) (writeHelper helper given) :=
  (alike_lift _).bind fun _ => alike_pure _

theorem writeValue_alike (s : Setting) (e : Expr) :
    Alike (writeValue s e) (writeValue s e) := by
  unfold writeValue
  dsimp only
  have hwrite : Alike (liftM (e.evaluate s.scope) >>= fun found =>
      write s found.shown) (liftM (e.evaluate s.scope) >>= fun found =>
      write s found.shown) :=
    (alike_lift _).bind fun _ => write_alike s _
  split
  · refine (alike_pure _).bind fun name => ?_
    cases Helper.ofName? name with
    | some helper => exact writeHelper_alike helper _
    | none => exact hwrite
  · refine (alike_lift _).bind fun _ => (alike_pure _).bind fun name => ?_
    cases Helper.ofName? name with
    | some helper => exact writeHelper_alike helper _
    | none => exact hwrite

theorem decorate_alike (s : Setting) (name : String)
    (arguments : Arguments) (body : Option Template) :
    Alike (decorate s name arguments body)
      (decorate s name arguments body) := by
  unfold decorate
  refine (alike_lift _).bind fun given => ?_
  split
  · refine (alike_lift _).bind fun found => ?_
    split
    · exact alike_modify fun _ _ => rfl
    · exact alike_throw _
  · exact alike_throw _

/-- Rounds of a loop are alike if the body is, block by block. -/
theorem forEach_alike {f g : Block → Rendering String}
    (h : ∀ block, Alike (f block) (g block)) (blocks : List Block) :
    Alike (forEach blocks f) (forEach blocks g) := by
  induction blocks with
  | nil =>
      rw [forEach, forEach]
      exact alike_pure ""
  | cons block rest ih =>
      rw [forEach, forEach]
      exact (h block).bind fun _ => ih.bind fun _ => alike_pure _

section

variable {render render' : Setting → Template → Rendering String}
  {templates : Fields Template}

mutual

/-- An element that includes nothing comes to the same with other
templates. -/
theorem Element.render_alike (s : Setting) :
    ∀ element : Element, element.inclusionFree = true →
      Alike (element.render render s)
        (element.render render' { s with templates })
  | .text text, _ => by
      rw [Element.render, Element.render]
      exact write_alike s text
  | .value e, _ => by
      rw [Element.render, Element.render]
      exact writeValue_alike s e
  | .call name arguments, _ => by
      rw [Element.render, Element.render]
      refine (alike_lift _).bind fun given => ?_
      exact (alike_lift _).bind fun helper => writeHelper_alike helper given
  | .decorator name arguments body, _ => by
      rw [Element.render, Element.render]
      exact (decorate_alike s name arguments body).bind fun _ =>
        alike_pure _
  | .block name arguments parameters alone body otherwise, h => by
      rw [Element.inclusionFree, Bool.and_eq_true] at h
      have hbody : ∀ s : Setting, Alike
          (named none (renderAll render s body))
          (named none (renderAll render' { s with templates } body)) :=
        fun s => (renderAll_alike s body h.1).named none
      have hother : Alike
          (do return (← renderOwn render s otherwise).getD "")
          (do return (← renderOwn render' { s with templates }
            otherwise).getD "") :=
        (renderOwn_alike s otherwise h.2).bind fun _ => alike_pure _
      rw [Element.render, Element.render]
      refine (alike_lift _).bind fun given => ?_
      refine (alike_lift _).bind fun helper => ?_
      refine Alike.ofBlock alone ?_
      cases helper with
      | choice negated =>
          refine (alike_lift _).bind fun answer => ?_
          cases answer with
          | true => exact hbody s
          | false => exact hother
      | test question =>
          refine (alike_lift _).bind fun answer => ?_
          cases answer with
          | true => exact hbody s
          | false => exact hother
      | each =>
          refine (alike_lift _).bind fun collection => ?_
          dsimp only
          cases Block.ofItems parameters collection with
          | nil => exact hother
          | cons block rest =>
              exact Alike.enclosed
                (forEach_alike (fun block => hbody (s.enter block)) _)
      | rebase =>
          refine (alike_lift _).bind fun base => ?_
          dsimp only
          cases Json.isTruthy false base.json with
          | true => exact Alike.enclosed (hbody (s.enter _))
          | false => exact hother
      | plain => exact hbody s
      | log => exact writeHelper_alike _ given
      | lookup => exact writeHelper_alike _ given
      | length => exact writeHelper_alike _ given
      | typeName language => exact writeHelper_alike _ given
  | .inclusion _ _ _ _ _, h => by cases h

/-- A body that includes nothing comes to the same with other
templates. -/
theorem renderAll_alike (s : Setting) :
    ∀ body : List Element, inclusionFree body = true →
      Alike (renderAll render s body)
        (renderAll render' { s with templates } body)
  | [], _ => by
      rw [renderAll, renderAll]
      exact alike_pure ""
  | element :: rest, h => by
      rw [inclusionFree, Bool.and_eq_true] at h
      rw [renderAll, renderAll]
      refine (Element.render_alike s element h.1).bind fun _ => ?_
      exact (renderAll_alike s rest h.2).bind fun _ => alike_pure _

theorem renderOwn_alike (s : Setting) :
    ∀ body : Option (List Element), ownInclusionFree body = true →
      Alike (renderOwn render s body)
        (renderOwn render' { s with templates } body)
  | none, _ => by
      rw [renderOwn, renderOwn]
      exact alike_pure none
  | some body, h => by
      rw [ownInclusionFree] at h
      rw [renderOwn, renderOwn]
      exact ((renderAll_alike s body h).named none).bind fun _ =>
        alike_pure _

end

end

/-- A template that includes nothing renders to the same, or fails for
the same reason, whatever it is called and whatever could be included. -/
theorem render_eq_of_inclusionFree {template : Template}
    (hfree : template.inclusionFree = true) (name name' : String)
    (templates templates' : Fields Template) (data : Json) :
    render name templates template data
      = render name' templates' template data := by
  let inner := renderWithin (inclusionLimit - 1)
  let s : Setting := ⟨.ofData data, templates, none, ""⟩
  have hsame : outcome (renderAll inner s template) (.start name)
      = outcome (renderAll inner { s with templates := templates' }
          template) (.start name') :=
    renderAll_alike s template hfree (.start name) (some name')
  have htext : ∀ (rendering : Rendering String) (p : Progress),
      (outcome rendering p).map Prod.fst = rendering.run' p := by
    intro rendering p
    show ((rendering.run p).map _).map _ = (rendering.run p).map _
    cases rendering.run p with
    | error e => rfl
    | ok result => rfl
  show (renderAll inner s template).run' (.start name)
    = (renderAll inner _ template).run' (.start name')
  rw [← htext, ← htext, hsame]

end SchemaPress.Template
