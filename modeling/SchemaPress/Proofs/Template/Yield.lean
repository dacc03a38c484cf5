/-
What elements yield.

Rendering carries progress along, and most of it matters only where
something is included: the templates declared so far, the template that
is being rendered, and the place in the line, which decides where an
indentation goes. With nothing to include and no indentation an element
comes out the same wherever it stands. `Yields` says that: a rendering
yields a value from every progress, and leaves some progress behind that
need not be known.

That makes the text of a body the texts of its elements put together
(`renderAll_yields_cons`), and the text of a loop the texts of its rounds
(`forEach_yields`). No rule here is about a particular element: what
yields what is said once for every kind of element, given what its
arguments come to.
-/
import SchemaPress.Template.Rendering

namespace SchemaPress.Template

namespace Rendering

variable {α β : Type}

/-- A rendering that yields a value whatever the progress is. -/
def Yields (rendering : StateT Progress (Except RenderError) α)
    (value : α) : Prop :=
  ∀ before, ∃ after, rendering.run before = .ok (value, after)

-- ================================================================== steps

theorem yields_pure (value : α) : Yields (pure value) value :=
  fun before => ⟨before, rfl⟩

theorem Yields.bind {step : StateT Progress (Except RenderError) α}
    {next : α → StateT Progress (Except RenderError) β} {a : α} {b : β}
    (hstep : Yields step a) (hnext : Yields (next a) b) :
    Yields (step >>= next) b := by
  intro before
  obtain ⟨between, hbetween⟩ := hstep before
  obtain ⟨after, hafter⟩ := hnext between
  refine ⟨after, ?_⟩
  rw [StateT.run_bind, hbetween]
  exact hafter

/-- A step that does not touch the progress. -/
theorem yields_lift {outcome : Except RenderError α} {value : α}
    (h : outcome = .ok value) :
    Yields (liftM outcome : StateT Progress (Except RenderError) α)
      value := by
  intro before
  subst h
  exact ⟨before, rfl⟩

/-- A change of the progress goes unnoticed. -/
theorem yields_modify (change : Progress → Progress) :
    Yields (modify change) ⟨⟩ :=
  fun before => ⟨change before, rfl⟩

theorem yields_get {next : Progress → Rendering String} {text : String}
    (h : ∀ progress, Yields (next progress) text) :
    Yields (get >>= next) text :=
  fun before => h before before

-- ============================================================= surroundings

variable {rendering : Rendering String} {text : String}

/-- The name that elements go by does not show. -/
theorem Yields.named (name : Option String) (h : Yields rendering text) :
    Yields (Rendering.named name rendering) text :=
  (yields_modify _).bind h

/-- It does not show that declared templates are forgotten. -/
theorem Yields.enclosed (h : Yields rendering text) :
    Yields (Rendering.enclosed rendering) text :=
  yields_get fun _ => h.bind ((yields_modify _).bind (yields_pure text))

/-- A say about the indentation does not show. -/
theorem Yields.onLine (due : Progress → Bool) (h : Yields rendering text) :
    Yields (Rendering.onLine due rendering) text := by
  refine yields_get fun before => ?_
  have hset : Yields (set { before with
      indentDue := due before, wrote := false } : Rendering PUnit) ⟨⟩ :=
    fun _ => ⟨_, rfl⟩
  exact hset.bind (h.bind ((yields_modify _).bind (yields_pure text)))

/-- A line of its own does not show in what a block yields. -/
theorem Yields.ofBlock (alone : Bool) (h : Yields rendering text) :
    Yields (Rendering.ofBlock alone rendering) text :=
  h.onLine _

end Rendering

open Rendering

-- ================================================================= writing

theorem indented_nil (chars : List Char) : indented [] chars = chars := by
  fun_induction indented [] chars with
  | case1 => rfl
  | case2 => rfl
  | case3 rest _ ih => rw [ih]; rfl
  | case4 c rest _ _ ih => rw [ih]

/-- Without indentation text is written as it is. -/
theorem write_yields {s : Setting} (hindent : s.indent = "")
    (text : String) : Yields (write s text) text := by
  intro before
  have hnil : s.indent.toList = [] := by rw [hindent]; rfl
  unfold write
  cases hchars : text.toList with
  | nil =>
      rw [String.toList_eq_nil_iff.1 hchars]
      exact ⟨before, rfl⟩
  | cons c rest =>
      obtain ⟨last, hlast⟩ : ∃ last, (c :: rest).getLast? = some last :=
        ⟨_, List.getLast?_eq_some_getLast (List.cons_ne_nil c rest)⟩
      simp only [List.head?_cons, hlast, hnil, indented_nil, ite_self,
        List.nil_append]
      rw [← hchars, String.ofList_toList]
      exact ⟨_, rfl⟩

-- ================================================================== bodies

variable {render : Setting → Template → Rendering String} {s : Setting}

theorem renderAll_yields_nil :
    Yields (renderAll render s []) (String.join []) := by
  rw [renderAll]
  exact yields_pure ""

/-- What an element yields stands in front of what the rest yields. -/
theorem renderAll_yields_append {element : Element} {rest : Template}
    {first more : String}
    (hfirst : Yields (element.render render s) first)
    (hmore : Yields (renderAll render s rest) more) :
    Yields (renderAll render s (element :: rest)) (first ++ more) := by
  rw [renderAll]
  exact hfirst.bind (hmore.bind (yields_pure _))

/-- A body yields what its elements yield, in order. -/
theorem renderAll_yields_cons {element : Element} {rest : Template}
    {first : String} {more : List String}
    (hfirst : Yields (element.render render s) first)
    (hmore : Yields (renderAll render s rest) (String.join more)) :
    Yields (renderAll render s (element :: rest))
      (String.join (first :: more)) := by
  rw [String.join_cons]
  exact renderAll_yields_append hfirst hmore

/-- A loop yields what its rounds yield, in order. -/
theorem forEach_yields {ι : Type} {items : List ι} {toBlock : ι → Block}
    {body : Block → Rendering String} {text : ι → String}
    (h : ∀ x ∈ items, Yields (body (toBlock x)) (text x)) :
    Yields (forEach (items.map toBlock) body)
      (String.join (items.map text)) := by
  induction items with
  | nil =>
      rw [List.map_nil, forEach]
      exact yields_pure ""
  | cons x rest ih =>
      rw [List.map_cons, forEach, List.map_cons, String.join_cons]
      have hrest := ih fun y hy => h y (List.mem_cons_of_mem _ hy)
      exact (h x (List.mem_cons_self ..)).bind
        (hrest.bind (yields_pure _))

end SchemaPress.Template
