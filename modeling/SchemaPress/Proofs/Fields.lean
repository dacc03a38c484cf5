/-
Fields under the operations that readers and writers put together.

A written record is a row of short lists, one for each field that may be
there, with the extensions behind them; what is read from it is looked up
by name, or is what remains without some names. So look-up and removal
are pulled through the row (`get?_append`, `without_append`), and a part
without the name in question drops out. A field written into the row has
its place or goes to the end (`insert_of_not_mem`), and it makes no
difference to that whether other names have been removed before
(`without_insert`).

The other half is about where fields come from: every entry of fields
read from pairs is one of the pairs (`mem_of_mem_ofList`), so whatever
holds of all pairs holds of all entries. Which pairs these are can be
said without reading them: the names are those of the pairs, each at its
first occurrence (`names_ofList`), and the value under a name is that of
the last pair with the name (`get?_ofList`).
-/
import Mathlib.Data.List.Induction
import SchemaPress.Fields

namespace SchemaPress.Fields

variable {α β : Type}

-- ============================================================ looking up

theorem get?_of_not_mem {name : String} {fields : Fields α}
    (h : name ∉ names fields) : get? name fields = none := by
  induction fields with
  | nil => rfl
  | cons entry rest ih =>
      obtain ⟨n, v⟩ := entry
      simp only [names, List.map_cons, List.mem_cons, not_or] at h
      rw [get?, if_neg (Ne.symm h.1)]
      exact ih h.2

theorem get?_append (name : String) (xs ys : Fields α) :
    get? name (xs ++ ys) = (get? name xs).or (get? name ys) := by
  induction xs with
  | nil => rfl
  | cons entry rest ih =>
      obtain ⟨n, v⟩ := entry
      rw [List.cons_append, get?, get?]
      split
      · rfl
      · exact ih

/-- Where names are distinct, every entry is what its name looks up. -/
theorem get?_of_mem {name : String} {value : α} {fields : Fields α}
    (hnodup : (names fields).Nodup) (h : (name, value) ∈ fields) :
    get? name fields = some value := by
  induction fields with
  | nil => cases h
  | cons entry rest ih =>
      obtain ⟨n, v⟩ := entry
      simp only [names, List.map_cons, List.nodup_cons] at hnodup
      rcases List.mem_cons.1 h with heq | hrest
      · cases heq
        rw [get?, if_pos rfl]
      · have hne : n ≠ name := by
          intro hn
          exact hnodup.1 (hn ▸ List.mem_map_of_mem hrest)
        rw [get?, if_neg hne]
        exact ih hnodup.2 hrest

theorem mem_of_get? {name : String} {value : α} {fields : Fields α}
    (h : get? name fields = some value) : (name, value) ∈ fields := by
  induction fields with
  | nil => cases h
  | cons entry rest ih =>
      obtain ⟨n, v⟩ := entry
      rw [get?] at h
      split at h
      · next hn =>
          cases h
          rw [hn]
          exact List.mem_cons_self ..
      · exact List.mem_cons_of_mem _ (ih h)

-- ============================================================== removing

/-- Removal goes through a row part by part. -/
theorem without_append (gone : List String) (xs ys : Fields α) :
    without gone (xs ++ ys) = without gone xs ++ without gone ys :=
  List.filter_append ..

theorem without_of_forall_not_mem {gone : List String}
    {fields : Fields α} (h : ∀ name ∈ names fields, name ∉ gone) :
    without gone fields = fields := by
  refine List.filter_eq_self.2 ?_
  intro entry hentry
  have := h entry.1 (List.mem_map_of_mem hentry)
  simpa using this

/-- What remains has none of the names. -/
theorem not_mem_of_mem_names_without {gone : List String}
    {fields : Fields α} {name : String}
    (h : name ∈ names (without gone fields)) : name ∉ gone := by
  obtain ⟨entry, hentry, rfl⟩ := List.mem_map.1 h
  simpa using (List.mem_filter.1 hentry).2

/-- The names that remain, in their order. -/
theorem names_without (gone : List String) (fields : Fields α) :
    names (without gone fields)
      = (names fields).filter fun name => !gone.contains name := by
  rw [names, names, List.filter_map, without]
  rfl

/-- Removal keeps names distinct. -/
theorem names_without_nodup (gone : List String) {fields : Fields α}
    (h : (names fields).Nodup) : (names (without gone fields)).Nodup :=
  h.sublist (List.filter_sublist.map _)

-- ================================================================ values

@[simp]
theorem names_mapValues (f : α → β) (fields : Fields α) :
    names (mapValues f fields) = names fields := by
  simp [names, mapValues, Function.comp_def]

theorem get?_mapValues (f : α → β) (name : String) (fields : Fields α) :
    get? name (mapValues f fields) = (get? name fields).map f := by
  induction fields with
  | nil => rfl
  | cons entry rest ih =>
      obtain ⟨n, v⟩ := entry
      show get? name ((n, f v) :: mapValues f rest) = _
      rw [get?, get?, ih]
      split
      · rfl
      · rfl

theorem mapValues_mapValues {γ : Type} (f : α → β) (g : β → γ)
    (fields : Fields α) :
    mapValues g (mapValues f fields) = mapValues (g ∘ f) fields := by
  simp [mapValues, Function.comp_def]

/-- Values that stay the same one by one stay the same together. -/
theorem mapValues_eq_self {f : α → α} {fields : Fields α}
    (h : ∀ entry ∈ fields, f entry.2 = entry.2) :
    mapValues f fields = fields := by
  refine (List.map_congr_left ?_).trans (List.map_id _)
  intro entry hentry
  rw [h entry hentry]
  rfl

-- ================================================================ origin

theorem mem_of_mem_insert {name : String} {value : α} {fields : Fields α}
    {entry : String × α} (h : entry ∈ insert name value fields) :
    entry = (name, value) ∨ entry ∈ fields := by
  induction fields with
  | nil => exact .inl (List.mem_singleton.1 h)
  | cons first rest ih =>
      rw [insert] at h
      split at h
      · rcases List.mem_cons.1 h with heq | hrest
        · exact .inl heq
        · exact .inr (List.mem_cons_of_mem _ hrest)
      · rcases List.mem_cons.1 h with heq | hrest
        · exact .inr (heq ▸ List.mem_cons_self ..)
        · exact (ih hrest).imp_right (List.mem_cons_of_mem _)

theorem mem_of_mem_ofList {pairs : List (String × α)}
    {entry : String × α} (h : entry ∈ ofList pairs) : entry ∈ pairs := by
  suffices general : ∀ (pairs : List (String × α)) (acc : Fields α),
      entry ∈ pairs.foldl (fun fields pair =>
        insert pair.1 pair.2 fields) acc →
      entry ∈ acc ∨ entry ∈ pairs by
    exact (general pairs [] h).resolve_left (List.not_mem_nil)
  intro pairs
  induction pairs with
  | nil => intro acc hacc; exact .inl hacc
  | cons pair rest ih =>
      intro acc hacc
      rcases ih _ hacc with hinsert | hrest
      · rcases mem_of_mem_insert hinsert with heq | hold
        · exact .inr (heq ▸ List.mem_cons_self ..)
        · exact .inl hold
      · exact .inr (List.mem_cons_of_mem _ hrest)

-- ================================================================ writing

/-- Writing a name that is not there adds an entry at the end. -/
theorem insert_of_not_mem {name : String} (value : α) {fields : Fields α}
    (h : name ∉ names fields) :
    insert name value fields = fields ++ [(name, value)] := by
  induction fields with
  | nil => rfl
  | cons entry rest ih =>
      simp only [names, List.map_cons, List.mem_cons, not_or] at h
      rw [insert, if_neg (Ne.symm h.1), ih h.2]
      rfl

/-- Writing a name that stays is seen in what remains, and nowhere
else. -/
theorem without_insert {gone : List String} {name : String}
    (h : name ∉ gone) (value : α) (fields : Fields α) :
    without gone (insert name value fields)
      = insert name value (without gone fields) := by
  have hkept : (!gone.contains name) = true := by simp [h]
  induction fields with
  | nil => simp only [without, insert, List.filter_nil, List.filter_cons,
      hkept, if_true]
  | cons entry rest ih =>
      simp only [without] at ih ⊢
      rw [insert]
      by_cases hname : entry.1 = name
      · rw [if_pos hname, List.filter_cons, List.filter_cons, hname]
        simp only [hkept, if_true, insert, hname]
      · rw [if_neg hname, List.filter_cons, List.filter_cons, ih]
        split
        · rw [insert, if_neg hname]
        · rfl

-- ========================================================= reading pairs

/-- Pairs are read one after the other. -/
theorem ofList_concat (pairs : List (String × α)) (pair : String × α) :
    ofList (pairs ++ [pair]) = insert pair.1 pair.2 (ofList pairs) := by
  rw [ofList, List.foldl_append]
  rfl

/-- The names of fields are those of the pairs that they are read from,
each at its first occurrence. -/
theorem names_ofList (pairs : List (String × α)) :
    names (ofList pairs) = (names pairs).eraseDups := by
  induction pairs using List.reverseRecOn with
  | nil => rfl
  | append_singleton pairs pair ih =>
      have hlast : names (pairs ++ [pair]) = names pairs ++ [pair.1] :=
        List.map_append
      have hsame : pair.1 ∈ names (ofList pairs) ↔ pair.1 ∈ names pairs := by
        rw [ih, List.mem_eraseDups]
      rw [ofList_concat, hlast, List.eraseDups_append]
      by_cases hmem : pair.1 ∈ names pairs
      · have hgone : [pair.1].removeAll (names pairs) = [] := by
          simp [List.removeAll, hmem]
        rw [names_insert_of_mem _ _ _ (hsame.2 hmem), hgone, ih]
        simp
      · have hkept : [pair.1].removeAll (names pairs) = [pair.1] := by
          simp [List.removeAll, hmem]
        rw [names_insert_of_not_mem _ _ _ (mt hsame.1 hmem), hkept, ih,
          List.eraseDups_cons]
        rfl

/-- Fields are read as they are. -/
theorem ofList_of_nodup {fields : Fields α} (h : (names fields).Nodup) :
    ofList fields = fields := by
  induction fields using List.reverseRecOn with
  | nil => rfl
  | append_singleton fields entry ih =>
      have hlast : names (fields ++ [entry]) = names fields ++ [entry.1] :=
        List.map_append
      rw [hlast, List.nodup_append] at h
      obtain ⟨hnodup, -, hapart⟩ := h
      have hnew : entry.1 ∉ names fields :=
        fun hmem => hapart _ hmem _ (List.mem_singleton_self _) rfl
      rw [ofList_concat, ih hnodup, insert_of_not_mem _ hnew]

/-- The value under a name is that of the last pair with the name. -/
theorem get?_ofList (name : String) (pairs : List (String × α)) :
    get? name (ofList pairs) = get? name pairs.reverse := by
  induction pairs using List.reverseRecOn with
  | nil => rfl
  | append_singleton pairs pair ih =>
      rw [ofList_concat, get?_insert, ih, List.reverse_append]
      rfl

end SchemaPress.Fields
