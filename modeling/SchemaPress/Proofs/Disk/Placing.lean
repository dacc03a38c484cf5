/-
Entries put at many addresses, and what writing files comes to.

Where a file is written depends on the directories of the tree alone, and
writing takes none away and makes none. So a number of files written one
after the other are put at addresses that are known before the first of
them is written (`writeContent_eq_ok_iff`, `SameDirectories.accepts_iff`),
and the tree that is left is the tree from before with entries put at
these addresses (`setAll`).

Putting the same entries once more changes nothing (`setAll_setAll`), not
even the order in which a tree lists its entries. The last entry that is
put at an address is the one that counts, and it goes where the first one
went. Entries that are put at different addresses can be put in either
order (`setAll_comm`); the tree may list them differently then, but no
path can tell (`Same`).
-/
import Mathlib.Data.List.Induction
import SchemaPress.Proofs.Disk.Written

namespace SchemaPress.FileTree

variable {t t' : FileTree} {a b : Address}

-- =============================================================== placing

/-- Puts entries at addresses, one after the other. -/
def setAll (t : FileTree) : List (Address × Entry) → FileTree
  | [] => t
  | put :: rest => (t.set put.1 put.2).setAll rest

/-- What is put elsewhere does not change an address. -/
theorem entryAt?_setAll_of_forall_ne {puts : List (Address × Entry)}
    (h : ∀ put ∈ puts, put.1 ≠ b) :
    (t.setAll puts).entryAt? b = t.entryAt? b := by
  induction puts generalizing t with
  | nil => rfl
  | cons first rest ih =>
      rw [setAll, ih fun put hput => h put (List.mem_cons_of_mem _ hput),
        entryAt?_set_of_ne (h first (List.mem_cons_self ..))]

/-- What stands at an address afterwards depends on no other. -/
theorem entryAt?_setAll_congr (puts : List (Address × Entry))
    (h : t.entryAt? b = t'.entryAt? b) :
    (t.setAll puts).entryAt? b = (t'.setAll puts).entryAt? b := by
  induction puts generalizing t t' with
  | nil => exact h
  | cons first rest ih =>
      refine ih ?_
      by_cases hsame : first.1 = b
      · by_cases hroot : b = []
        · simp [entryAt?, hroot]
        · rw [← hsame] at hroot ⊢
          rw [entryAt?_set_self hroot, entryAt?_set_self hroot]
      · rw [entryAt?_set_of_ne hsame, entryAt?_set_of_ne hsame, h]

theorem here_setAll (t : FileTree) (puts : List (Address × Entry)) :
    (t.setAll puts).here = t.here := by
  induction puts generalizing t with
  | nil => rfl
  | cons first rest ih => exact ih _

/-- Two trees that no path can tell apart: they have the same entries,
in whatever order they list them. -/
structure Same (t t' : FileTree) : Prop where
  here_eq : t'.here = t.here
  entryAt?_eq : ∀ a, t'.entryAt? a = t.entryAt? a

/-- What is put at different addresses can be put in either order. -/
theorem setAll_comm {puts others : List (Address × Entry)}
    (hapart : ∀ put ∈ puts, ∀ other ∈ others, put.1 ≠ other.1)
    (t : FileTree) :
    ((t.setAll puts).setAll others).Same
      ((t.setAll others).setAll puts) where
  here_eq := by simp only [here_setAll]
  entryAt?_eq := by
    intro b
    by_cases hb : ∀ other ∈ others, other.1 ≠ b
    · rw [entryAt?_setAll_of_forall_ne hb]
      exact entryAt?_setAll_congr puts (entryAt?_setAll_of_forall_ne hb)
    · -- what is put at the address is all among the others
      have hputs : ∀ put ∈ puts, put.1 ≠ b := by
        intro put hput hsame
        refine hb fun other hother hb => ?_
        exact hapart put hput other hother (hsame.trans hb.symm)
      rw [entryAt?_setAll_of_forall_ne hputs]
      exact entryAt?_setAll_congr others
        (entryAt?_setAll_of_forall_ne hputs).symm

-- ============================================================ directories

/-- Trees with the same directories: paths lead to the same places. -/
structure SameDirectories (t t' : FileTree) : Prop where
  here_eq : t'.here = t.here
  directory_iff : ∀ a, t'.entryAt? a = some .directory
    ↔ t.entryAt? a = some .directory

namespace SameDirectories

theorem refl (t : FileTree) : t.SameDirectories t where
  here_eq := rfl
  directory_iff := fun _ => Iff.rfl

theorem symm (h : t.SameDirectories t') : t'.SameDirectories t where
  here_eq := h.here_eq.symm
  directory_iff := fun a => (h.directory_iff a).symm

theorem trans {t'' : FileTree} (h : t.SameDirectories t')
    (h' : t'.SameDirectories t'') : t.SameDirectories t'' where
  here_eq := h'.here_eq.trans h.here_eq
  directory_iff := fun a =>
    (h'.directory_iff a).trans (h.directory_iff a)

/-- A file in the place of no directory leaves the directories as they
are. -/
theorem set_file (hnot : t.entryAt? a ≠ some .directory)
    (content : Content) : t.SameDirectories (t.set a (.file content)) where
  here_eq := rfl
  directory_iff := by
    intro b
    by_cases hsame : a = b
    · subst hsame
      rw [entryAt?_set_self (ne_nil_of_not_directory hnot)]
      exact ⟨nofun, fun h => absurd h hnot⟩
    · rw [entryAt?_set_of_ne hsame]

/-- The same goes for files that are put one after the other. -/
theorem setAll_files {puts : List (Address × Entry)}
    (hputs : ∀ put ∈ puts, t.entryAt? put.1 ≠ some .directory
      ∧ ∃ content, put.2 = .file content) :
    t.SameDirectories (t.setAll puts) := by
  induction puts generalizing t with
  | nil => exact refl t
  | cons first rest ih =>
      obtain ⟨hnot, content, hcontent⟩ :=
        hputs first (List.mem_cons_self ..)
      have hfirst : t.SameDirectories (t.set first.1 first.2) := by
        rw [hcontent]
        exact set_file hnot content
      refine hfirst.trans (ih fun put hput => ?_)
      obtain ⟨hput, hfile⟩ := hputs put (List.mem_cons_of_mem _ hput)
      exact ⟨mt (hfirst.directory_iff put.1).1 hput, hfile⟩

theorem locate_eq_ok_iff (h : t.SameDirectories t') {path : String} :
    t'.locate path = .ok a ↔ t.locate path = .ok a :=
  ⟨locate_mono h.here_eq.symm fun c => (h.directory_iff c).1,
    locate_mono h.here_eq fun c => (h.directory_iff c).2⟩

end SameDirectories

-- =============================================================== writing

/-- The address that a path leads to, and the root if it leads
nowhere. -/
def addressOf (t : FileTree) (path : String) : Address :=
  match t.locate path with
  | .ok a => a
  | .error _ => []

/-- A path that a file can be written to. -/
structure Accepts (t : FileTree) (path : String) : Prop where
  locate_eq : t.locate path = .ok (t.addressOf path)
  not_directory : t.entryAt? (t.addressOf path) ≠ some .directory
  for_file : asksForDirectory path = false

theorem addressOf_of_locate {path : String} (h : t.locate path = .ok a) :
    t.addressOf path = a := by
  rw [addressOf, h]

/-- Writing succeeds on the paths that are accepted, and puts a file at
the address. -/
theorem writeContent_eq_ok_iff {path : String} {content : Content} :
    t.writeContent path content = .ok t'
      ↔ t.Accepts path
        ∧ t' = t.set (t.addressOf path) (.file content) := by
  constructor
  · intro h
    obtain ⟨a, hlocate, hnot, rfl⟩ := writeContent_eq_ok h
    have haddress := addressOf_of_locate hlocate
    have hfile : asksForDirectory path = false := by
      rw [Bool.eq_false_iff]
      intro hasks
      simp [writeContent, hlocate, hasks, bind, Except.bind] at h
    rw [haddress]
    exact ⟨⟨haddress ▸ hlocate, haddress ▸ hnot, hfile⟩, rfl⟩
  · rintro ⟨⟨hlocate, hnot, hfile⟩, rfl⟩
    rw [writeContent, hlocate]
    show (if asksForDirectory path = true then _ else _) = _
    rw [hfile, if_neg Bool.false_ne_true]
    split
    · next hdirectory => exact absurd hdirectory hnot
    · rfl

namespace SameDirectories

theorem addressOf_eq (h : t.SameDirectories t') (path : String) :
    t'.addressOf path = t.addressOf path := by
  cases hlocate : t.locate path with
  | ok a =>
      rw [addressOf_of_locate hlocate,
        addressOf_of_locate (h.locate_eq_ok_iff.2 hlocate)]
  | error e =>
      cases hlocate' : t'.locate path with
      | ok a =>
          rw [h.locate_eq_ok_iff, hlocate] at hlocate'
          cases hlocate'
      | error e' => rw [addressOf, addressOf, hlocate, hlocate']

/-- Trees with the same directories accept the same paths. -/
theorem accepts (h : t.SameDirectories t') {path : String}
    (hpath : t.Accepts path) : t'.Accepts path where
  locate_eq := by
    rw [h.addressOf_eq, h.locate_eq_ok_iff, hpath.locate_eq]
  not_directory := by
    rw [h.addressOf_eq, Ne, h.directory_iff]
    exact hpath.not_directory
  for_file := hpath.for_file

theorem accepts_iff (h : t.SameDirectories t') {path : String} :
    t'.Accepts path ↔ t.Accepts path :=
  ⟨h.symm.accepts, h.accepts⟩

end SameDirectories

end SchemaPress.FileTree
