/-
Steps on a tree of files, and the properties of the tree that they
preserve or achieve.

Steps preserve a property if it holds of the tree they leave whenever it
held of the tree they found, whatever they yield and whether or not they
were refused. Looking preserves everything; a change preserves what the
changed tree still has. Steps in a row preserve what each of them
preserves, and with that a property that every made directory preserves
is one that making a directory with all those above it preserves.

Steps achieve a property if it holds of the tree they leave whenever they
succeed, whatever held of the tree they found. The last steps decide
that. Making directories ends with making the last one or finding it
there, so it achieves that there is one.
-/
import SchemaPress.Disk.Tree
import SchemaPress.Proofs.Disk.Written

namespace SchemaPress.OnTree

variable {P : FileTree → Prop} {α β : Type}

/-- What steps do that come after others whose outcome is known. -/
theorem run_bind_of_run_eq {steps : OnTree α} {t t' : FileTree} {a : α}
    (h : StateT.run steps t = (a, t')) (next : α → OnTree β) :
    StateT.run (steps >>= next) t = StateT.run (next a) t' := by
  rw [StateT.run_bind, h]
  rfl

/-- Writing changes the tree, or leaves it alone if that is refused. -/
theorem write_run (path text : String) (t : FileTree) :
    StateT.run (Disk.write path text : OnTree _) t
      = match t.writeContent path (.text text) with
        | .ok t' => (.ok (), t')
        | .error e => (.error e, t) := rfl

/-- A property of the tree holds after some steps if it held before. -/
def Preserves (P : FileTree → Prop) (steps : OnTree α) : Prop :=
  ∀ t, P t → P (StateT.run steps t).2

theorem preserves_pure (a : α) : Preserves P (pure a : OnTree α) :=
  fun _ h => h

/-- Steps in a row preserve what each of them preserves. -/
theorem Preserves.bind {steps : OnTree α} {next : α → OnTree β}
    (hsteps : Preserves P steps) (hnext : ∀ a, Preserves P (next a)) :
    Preserves P (steps >>= next) := by
  intro t h
  rw [StateT.run_bind]
  exact hnext _ _ (hsteps t h)

theorem preserves_isDirectory (path : String) :
    Preserves P (Disk.isDirectory path : OnTree Bool) :=
  fun _ h => h

/-- A change preserves what the changed tree still has. -/
theorem preserves_change {f : FileTree → Except DiskError FileTree}
    (h : ∀ t t', P t → f t = .ok t' → P t') : Preserves P (change f) := by
  intro t ht
  show P (change f t).2
  unfold change
  cases hf : f t with
  | error e => exact ht
  | ok t' => exact h t t' ht hf

theorem preserves_makeDirectory {path : String}
    (hmake : ∀ t t', P t → t.makeDirectory path = .ok t' → P t') :
    Preserves P (Disk.makeDirectory path : OnTree _) :=
  preserves_change hmake

theorem preserves_ensureDirectory {path : String}
    (hmake : ∀ t t', P t → t.makeDirectory path = .ok t' → P t') :
    Preserves P (Disk.ensureDirectory path : OnTree _) := by
  unfold Disk.ensureDirectory
  refine (preserves_makeDirectory hmake).bind ?_
  intro made
  cases made with
  | ok _ => exact preserves_pure _
  | error e =>
      refine (preserves_isDirectory path).bind ?_
      intro there
      cases there with
      | false => exact preserves_pure _
      | true => exact preserves_pure _

/-- The paths above are made directories first where that is needed. -/
theorem preserves_makeFrom {paths : List String}
    (hmake : ∀ path ∈ paths, ∀ t t', P t →
      t.makeDirectory path = .ok t' → P t') :
    Preserves P (Disk.makeFrom paths : OnTree _) := by
  induction paths with
  | nil => exact preserves_pure _
  | cons path above ih =>
      have hpath := hmake path (List.mem_cons_self ..)
      have habove := ih fun other hother =>
        hmake other (List.mem_cons_of_mem _ hother)
      unfold Disk.makeFrom
      split
      · exact preserves_pure _
      · refine (preserves_makeDirectory hpath).bind ?_
        intro made
        split
        · exact preserves_pure _
        · refine habove.bind ?_
          intro madeAbove
          cases madeAbove with
          | ok _ => exact preserves_ensureDirectory hpath
          | error e => exact preserves_pure _
        · refine (preserves_isDirectory path).bind ?_
          intro there
          cases there with
          | false => exact preserves_pure _
          | true => exact preserves_pure _

/-- What every made directory preserves, making directories all the way
down to a path preserves. -/
theorem preserves_makeDirectories {path : String}
    (hmake : ∀ above ∈ Disk.ancestors path, ∀ t t', P t →
      t.makeDirectory above = .ok t' → P t') :
    Preserves P (Disk.makeDirectories path : OnTree _) :=
  preserves_makeFrom hmake

-- ============================================================= achieving

variable {path : String}

/-- A property of the tree holds after some steps if they succeed. -/
def Achieves (P : FileTree → Prop)
    (steps : OnTree (Except DiskError Unit)) : Prop :=
  ∀ t t', StateT.run steps t = (.ok (), t') → P t'

theorem achieves_error (e : DiskError) :
    Achieves P (pure (.error e) : OnTree _) :=
  nofun

/-- A directory that is found to be there is there. -/
theorem achieves_isDirectory (path : String) (e : DiskError) :
    Achieves (·.isDirectory path = true) (do
      if ← Disk.isDirectory path then return .ok ()
      else return .error e) := by
  intro t t' h
  have hlook : StateT.run (Disk.isDirectory path : OnTree Bool) t
      = (t.isDirectory path, t) := rfl
  rw [run_bind_of_run_eq hlook] at h
  split at h
  · next hthere =>
      cases h
      exact hthere
  · cases h

/-- What the last steps achieve, steps in a row achieve. -/
theorem Achieves.after (steps : OnTree α)
    {next : α → OnTree (Except DiskError Unit)}
    (h : ∀ a, Achieves P (next a)) : Achieves P (steps >>= next) := by
  intro t t' hrun
  rw [StateT.run_bind] at hrun
  exact h _ _ t' hrun

/-- Steps after the making of a directory count only if it fails. -/
theorem achieves_of_makeDirectory
    {next : Except DiskError Unit → OnTree (Except DiskError Unit)}
    (hmade : next (.ok ()) = pure (.ok ()))
    (hnext : ∀ e, Achieves (·.isDirectory path = true) (next (.error e))) :
    Achieves (·.isDirectory path = true)
      (Disk.makeDirectory path >>= next) := by
  intro t t' h
  have hrun : StateT.run (Disk.makeDirectory path : OnTree _) t
      = match t.makeDirectory path with
        | .ok t' => (.ok (), t')
        | .error e => (.error e, t) := rfl
  rw [StateT.run_bind, hrun] at h
  cases hmake : t.makeDirectory path with
  | error e =>
      rw [hmake] at h
      exact hnext e t t' h
  | ok made =>
      rw [hmake] at h
      change StateT.run (next (.ok ())) made = _ at h
      rw [hmade] at h
      cases h
      exact FileTree.isDirectory_of_makeDirectory hmake

theorem achieves_ensureDirectory (path : String) :
    Achieves (·.isDirectory path = true)
      (Disk.ensureDirectory path : OnTree _) :=
  achieves_of_makeDirectory rfl (achieves_isDirectory path)

theorem achieves_makeDirectories (hpath : path ≠ "") :
    Achieves (·.isDirectory path = true)
      (Disk.makeDirectories path : OnTree _) := by
  unfold Disk.makeDirectories Disk.ancestors Disk.pathsUp Disk.makeFrom
  rw [if_neg (by simpa using hpath)]
  refine achieves_of_makeDirectory rfl fun e => ?_
  cases e with
  | notFound =>
      refine .after (Disk.makeFrom _) fun above => ?_
      cases above with
      | ok _ => exact achieves_ensureDirectory path
      | error e => exact achieves_error e
  | _ => exact achieves_isDirectory path _

end SchemaPress.OnTree
