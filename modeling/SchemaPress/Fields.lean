/-
Fields: named values kept in the order in which they were declared. The
whole library speaks of declared things (models, properties, unknown
keys), and what it writes follows the declaration, so order is part of
the value and a hash table would lose it.

Two rules decide everything below.

# Writing a name twice

A name that is written a second time keeps the place of its first
writing and takes the value of its last (`insert`). Reading a list of
pairs into fields is that rule applied from left to right (`ofList`),
so the names of the result are the names of the list, each at its first
occurrence, with the value of its last.

# Reading

`get?` finds the value under a name. On fields built by `ofList` names
are pairwise distinct (`names_ofList_nodup`), so "the first entry under
a name" and "the entry under a name" are the same thing.
-/

namespace SchemaPress

/-- Named values in declaration order. -/
abbrev Fields (α : Type) := List (String × α)

namespace Fields

variable {α β : Type}

-- ========================================================= operations

/-- The names, in order. -/
def names (fields : Fields α) : List String := fields.map Prod.fst

/-- The value under a name. -/
def get? (name : String) : Fields α → Option α
  | [] => none
  | (n, v) :: rest => if n = name then some v else get? name rest

/-- Gives a name its value: in place when the name is there already, at
the end otherwise. -/
def insert (name : String) (value : α) : Fields α → Fields α
  | [] => [(name, value)]
  | (n, v) :: rest =>
      if n = name then (name, value) :: rest
      else (n, v) :: insert name value rest

/-- Reads pairs from left to right; a repeated name keeps its first place
and takes its last value. -/
def ofList (pairs : List (String × α)) : Fields α :=
  pairs.foldl (fun fields pair => insert pair.1 pair.2 fields) []

/-- The entries whose name is none of `gone`. -/
def without (gone : List String) (fields : Fields α) : Fields α :=
  fields.filter fun entry => !gone.contains entry.1

/-- Replaces every value and leaves the names alone. -/
def mapValues (f : α → β) (fields : Fields α) : Fields β :=
  fields.map fun entry => (entry.1, f entry.2)

-- ============================================================= lemmas

/-- Writing a name that is there changes no name. -/
theorem names_insert_of_mem (name : String) (value : α)
    (fields : Fields α) (h : name ∈ names fields) :
    names (insert name value fields) = names fields := by
  induction fields with
  | nil => simp [names] at h
  | cons entry rest ih =>
      by_cases hn : entry.1 = name
      · simp [insert, names, hn]
      · have hrest : name ∈ names rest := by
          simpa [names, Ne.symm hn, eq_comm, hn] using h
        have := ih hrest
        simp only [names] at this
        simp [insert, names, hn, this]

/-- Writing a name that is not there adds it at the end. -/
theorem names_insert_of_not_mem (name : String) (value : α)
    (fields : Fields α) (h : name ∉ names fields) :
    names (insert name value fields) = names fields ++ [name] := by
  induction fields with
  | nil => simp [insert, names]
  | cons entry rest ih =>
      have hn : entry.1 ≠ name := by
        intro hn
        exact h (by simp [names, hn])
      have hrest : name ∉ names rest := by
        intro hr
        exact h (by simp only [names, List.map_cons] at hr ⊢; simp [hr])
      have := ih hrest
      simp only [names] at this
      simp [insert, names, hn, this]

/-- What was written under a name is what is read there, and no other
name notices. -/
theorem get?_insert (name other : String) (value : α)
    (fields : Fields α) :
    get? other (insert name value fields)
      = if name = other then some value else get? other fields := by
  induction fields with
  | nil => simp [insert, get?]
  | cons entry rest ih =>
      by_cases hn : entry.1 = name
      · by_cases ho : name = other
        · simp [insert, get?, hn, ho]
        · simp [insert, get?, hn, ho]
      · by_cases ho : name = other
        · subst ho
          simp [insert, get?, hn, ih]
        · simp [insert, get?, hn, ho, ih]

/-- Distinct names stay distinct when one more is written. -/
theorem names_insert_nodup (name : String) (value : α)
    (fields : Fields α) (h : (names fields).Nodup) :
    (names (insert name value fields)).Nodup := by
  by_cases hm : name ∈ names fields
  · rw [names_insert_of_mem name value fields hm]
    exact h
  · rw [names_insert_of_not_mem name value fields hm]
    refine List.nodup_append.2 ⟨h, by simp, ?_⟩
    intro a ha b hb
    simp only [List.mem_singleton] at hb
    subst hb
    intro hab
    exact hm (hab ▸ ha)

/-- Fields read from pairs have pairwise distinct names. -/
theorem names_ofList_nodup (pairs : List (String × α)) :
    (names (ofList pairs)).Nodup := by
  suffices h : ∀ (acc : Fields α), (names acc).Nodup →
      (names (pairs.foldl (fun fields pair =>
        insert pair.1 pair.2 fields) acc)).Nodup from
    h [] (by simp [names])
  induction pairs with
  | nil => intro acc h; exact h
  | cons pair rest ih =>
      intro acc h
      exact ih _ (names_insert_nodup pair.1 pair.2 acc h)

end Fields

end SchemaPress
