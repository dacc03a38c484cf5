/-
Outcomes, which are values or failures.

Steps in a row yield a value only if each of them does
(`exists_of_bind_eq_ok`), and else fail as the first of them that fails
(`bind_eq_error_iff`). The same goes for one step that is taken for each
entry of a list (`exists_mapM_eq_ok_iff`, `mapM_eq_error_iff`).

# Checks

Reading and rendering yield a value or a failure, and the values are
trees whose equality cannot be decided. What can be evaluated is a check
on the value. If a computed outcome passes a check, then it is a success,
with a value that has what the check asks for.
-/
namespace SchemaPress

variable {ε α β : Type}

-- ================================================================== steps

/-- If a step and what follows it succeed, then the step does and what
follows its value. -/
theorem exists_of_bind_eq_ok {x : Except ε α} {f : α → Except ε β} {b : β}
    (h : (x >>= f) = .ok b) : ∃ a, x = .ok a ∧ f a = .ok b := by
  cases x with
  | error e => cases h
  | ok a => exact ⟨a, rfl, h⟩

/-- What fails is the step, or what follows its value. -/
theorem bind_eq_error_iff {x : Except ε α} {f : α → Except ε β} {e : ε} :
    (x >>= f) = .error e
      ↔ x = .error e ∨ ∃ a, x = .ok a ∧ f a = .error e := by
  cases x with
  | error cause => simp [bind, Except.bind]
  | ok a => simp [bind, Except.bind]

section MapError

variable {ε' : Type} {x : Except ε α} {toError : ε → ε'}

theorem mapError_eq_ok_iff {a : α} :
    x.mapError toError = .ok a ↔ x = .ok a := by
  cases x with
  | error cause =>
      show .error (toError cause) = Except.ok a ↔ _
      simp
  | ok value =>
      show .ok value = Except.ok a ↔ _
      simp

theorem mapError_eq_error_iff {e : ε'} :
    x.mapError toError = .error e
      ↔ ∃ cause, x = .error cause ∧ toError cause = e := by
  cases x with
  | error cause =>
      show .error (toError cause) = Except.error e ↔ _
      simp
  | ok value =>
      show .ok value = Except.error e ↔ _
      simp

end MapError

section Lists

variable {step : α → Except ε β} {xs : List α} {e : ε}

/-- Steps of which none is the first to fail all succeed. -/
theorem exists_mapM_eq_ok_iff :
    (∃ ys, xs.mapM step = .ok ys) ↔ ∀ x ∈ xs, ∃ y, step x = .ok y := by
  induction xs with
  | nil => exact iff_of_true ⟨[], rfl⟩ nofun
  | cons x rest ih =>
      rw [List.mapM_cons, List.forall_mem_cons, ← ih]
      cases step x with
      | error e => simp [bind, Except.bind]
      | ok y =>
          cases rest.mapM step with
          | error e => simp [bind, Except.bind]
          | ok ys => simp [bind, Except.bind, pure, Except.pure]

/-- Either the first step fails, or it does not and one behind it
does. -/
theorem mapM_cons_eq_error_iff {x : α} :
    (x :: xs).mapM step = .error e
      ↔ step x = .error e
        ∨ (∃ y, step x = .ok y) ∧ xs.mapM step = .error e := by
  have hkeep : ∀ y ys, (pure (y :: ys) : Except ε (List β)) ≠ .error e :=
    fun _ _ => nofun
  simp only [List.mapM_cons, bind_eq_error_iff, hkeep, and_false,
    exists_false, or_false, exists_and_right]

/-- Steps fail as the first of them that fails. -/
theorem mapM_eq_error_iff :
    xs.mapM step = .error e
      ↔ ∃ front x back, xs = front ++ x :: back
        ∧ (∀ y ∈ front, ∃ z, step y = .ok z) ∧ step x = .error e := by
  constructor
  · intro h
    induction xs with
    | nil => cases h
    | cons first rest ih =>
        rcases mapM_cons_eq_error_iff.1 h with hfirst | ⟨hfirst, hrest⟩
        · exact ⟨[], first, rest, rfl, nofun, hfirst⟩
        · obtain ⟨front, x, back, rfl, hfront, hx⟩ := ih hrest
          exact ⟨first :: front, x, back, rfl,
            List.forall_mem_cons.2 ⟨hfirst, hfront⟩, hx⟩
  · rintro ⟨front, x, back, rfl, hfront, hx⟩
    induction front with
    | nil => exact mapM_cons_eq_error_iff.2 (.inl hx)
    | cons first front ih =>
        obtain ⟨hfirst, hfront⟩ := List.forall_mem_cons.1 hfront
        exact mapM_cons_eq_error_iff.2 (.inr ⟨hfirst, ih hfront⟩)

end Lists

-- ================================================================= checks

/-- Whether an outcome is a success with a value that passes a check. -/
def passes (check : α → Bool) : Except ε α → Bool
  | .ok value => check value
  | .error _ => false

/-- What passes a check is a success. -/
theorem exists_of_passes {check : α → Bool} {outcome : Except ε α}
    (h : passes check outcome = true) :
    ∃ value, outcome = .ok value ∧ check value = true := by
  cases outcome with
  | error e => cases h
  | ok value => exact ⟨value, rfl, h⟩

/-- Steps whose outcome passes a check succeed. -/
theorem exists_of_passes_fst {σ : Type} {check : α → Bool}
    {run : Except ε α × σ} (h : passes check run.1 = true) :
    ∃ value left, run = (.ok value, left) ∧ check value = true := by
  obtain ⟨value, hvalue, hcheck⟩ := exists_of_passes h
  exact ⟨value, run.2, by rw [← hvalue], hcheck⟩

end SchemaPress
