/-
Placeholders in a text, and what a text is once they are filled.

A placeholder starts with a brace that opens and ends with one that
closes, so no end of it is a beginning of it (`eq_nil_of_end_prefix`). Two
placeholders in a text never share a letter, and what stands before a
placeholder makes no other one together with a part of it
(`not_prefix_append`). This is all that is needed of the letters.

# Outlines

An outline is a text with gaps in it, where nothing that stands between
the gaps holds a placeholder. With placeholders in the gaps, every text
has an outline (`exists_outline`), and only one (`filled_injective`). So
it is the placeholders that occur in a text, all of them, that its
outline leaves out.

To fill a text is to put the name into the gaps of the outline
(`fill_filled`). The outline is that of the text alone. It does not
depend on the name, so a placeholder that comes with the name, or comes
about where the name meets the text, stays as it is. What holds of filled
texts is shown on outlines, by induction on the parts.
-/
import Mathlib.Data.List.Infix
import Mathlib.Logic.Function.Basic
import SchemaPress.Generation.FileName

namespace SchemaPress.NamePattern

variable {part text : List Char}

-- ============================================================ bare texts

/-- A text without a placeholder. -/
def Bare (text : List Char) : Prop := ¬ placeholder <:+: text

instance (text : List Char) : Decidable (Bare text) :=
  inferInstanceAs (Decidable (¬ _))

/-- What is a part of a bare text is bare. -/
theorem Bare.of_infix (h : Bare text) (hpart : part <:+: text) :
    Bare part := fun hplaceholder => h (hplaceholder.trans hpart)

/-- No end of the placeholder is a beginning of it, but for the whole and
for nothing. -/
theorem eq_nil_of_end_prefix {rest : List Char}
    (h : part ++ rest = placeholder) (hstart : rest <+: placeholder) :
    part = [] ∨ rest = [] := by
  have hends : ∀ k < placeholder.length, 0 < k →
      ¬ placeholder.drop k <+: placeholder := by decide
  by_contra hnone
  obtain ⟨hpart, hrest⟩ := not_or.1 hnone
  have hlength : part.length + rest.length = placeholder.length := by
    rw [← h, List.length_append]
  have hpos := List.length_pos_iff.2 hpart
  have hshort : part.length < placeholder.length := by
    have := List.length_pos_iff.2 hrest
    omega
  have hdrop : placeholder.drop part.length = rest := by
    rw [← h, List.drop_left]
  exact hends _ hshort hpos (hdrop ▸ hstart)

/-- A placeholder behind a bare text does not make one that starts in the
text. -/
theorem not_prefix_append (hbare : Bare part) (hne : part ≠ [])
    (text : List Char) :
    ¬ placeholder <+: part ++ (placeholder ++ text) := by
  intro h
  rcases List.prefix_or_prefix_of_prefix h (List.prefix_append part _)
    with hwithin | ⟨rest, hrest⟩
  · exact hbare hwithin.isInfix
  · -- `rest` is what the two placeholders would share
    have hbehind : rest <+: placeholder ++ text := by
      rw [← List.prefix_append_right_inj part, hrest]
      exact h
    have hlength : rest.length ≤ placeholder.length := by
      rw [← hrest, List.length_append]
      exact Nat.le_add_left _ _
    have hstart : rest <+: placeholder :=
      List.prefix_of_prefix_length_le hbehind
        (List.prefix_append placeholder text) hlength
    rcases eq_nil_of_end_prefix hrest hstart with hpart | rfl
    · exact hne hpart
    · rw [List.append_nil] at hrest
      exact hbare (hrest ▸ List.infix_rfl)

-- =============================================================== filling

/-- A letter at which no placeholder starts is kept. -/
theorem fill_cons {c : Char} (h : ¬ placeholder <+: c :: text)
    (name : List Char) :
    fill name 0 (c :: text) = c :: fill name 0 text := by
  rw [fill, if_neg (mt List.isPrefixOf_iff_prefix.1 h)]

/-- A placeholder in front is filled. -/
theorem fill_placeholder_append (name text : List Char) :
    fill name 0 (placeholder ++ text) = name ++ fill name 0 text := rfl

/-- A bare text is kept. -/
theorem fill_of_bare (h : Bare text) (name : List Char) :
    fill name 0 text = text := by
  induction text with
  | nil => rfl
  | cons c text ih =>
      have hrest : Bare text := h.of_infix (List.suffix_cons c text).isInfix
      rw [fill_cons (mt List.IsPrefix.isInfix h), ih hrest]

/-- Without an opening brace there is nothing to fill. -/
theorem fill_of_not_mem (h : '{' ∉ text) (name : List Char) :
    fill name 0 text = text := by
  have hbare : Bare text := fun hplaceholder =>
    h (hplaceholder.subset (List.mem_cons_self ..))
  exact fill_of_bare hbare name

/-- A bare text in front of a placeholder is kept, and the placeholder is
filled. -/
theorem fill_append_placeholder (h : Bare part) (name text : List Char) :
    fill name 0 (part ++ (placeholder ++ text))
      = part ++ (name ++ fill name 0 text) := by
  induction part with
  | nil => exact fill_placeholder_append name text
  | cons c part ih =>
      have hrest : Bare part := h.of_infix (List.suffix_cons c part).isInfix
      have hstart := not_prefix_append h (List.cons_ne_nil c part) text
      rw [List.cons_append] at hstart ⊢
      rw [fill_cons hstart, ih hrest, List.cons_append]

-- ============================================================== outlines

/-- A text with gaps: bare parts, and a gap between any two. -/
inductive Outline where
  | last (part : List Char) (bare : Bare part)
  | before (part : List Char) (bare : Bare part) (rest : Outline)

namespace Outline

/-- The text with something put into every gap. -/
def filled (filler : List Char) : Outline → List Char
  | last part _ => part
  | before part _ rest => part ++ (filler ++ rest.filled filler)

/-- One outline, a gap, and another outline. -/
def append : Outline → Outline → Outline
  | last part bare, other => before part bare other
  | before part bare rest, other => before part bare (rest.append other)

theorem filled_append (filler : List Char) (outline other : Outline) :
    (outline.append other).filled filler
      = outline.filled filler ++ (filler ++ other.filled filler) := by
  induction outline with
  | last part bare => rfl
  | before part bare rest ih =>
      rw [append, filled, filled, ih]
      simp only [List.append_assoc]

end Outline

/-- Every text has an outline. -/
theorem exists_outline (text : List Char) :
    ∃ outline : Outline, outline.filled placeholder = text := by
  by_cases hbare : Bare text
  · exact ⟨.last text hbare, rfl⟩
  · -- any of the placeholders will do, as both sides of it are shorter
    obtain ⟨front, back, htext⟩ := not_not.1 hbare
    have hlength : front.length + placeholder.length + back.length
        = text.length := by
      rw [← htext, List.length_append, List.length_append]
    have hpos : 0 < placeholder.length := by decide
    have hfront : front.length < text.length := by omega
    have hback : back.length < text.length := by omega
    obtain ⟨outline, houtline⟩ := exists_outline front
    obtain ⟨other, hother⟩ := exists_outline back
    refine ⟨outline.append other, ?_⟩
    rw [Outline.filled_append, houtline, hother, ← List.append_assoc,
      htext]
termination_by text.length

/-- Bare texts in front of a placeholder are the same if all is. -/
theorem append_placeholder_inj {part other text rest : List Char}
    (hpart : Bare part) (hother : Bare other)
    (h : part ++ (placeholder ++ text) = other ++ (placeholder ++ rest)) :
    part = other ∧ text = rest := by
  -- what the longer has more would be in front of its placeholder
  have hnil : ∀ {more text rest : List Char}, Bare more →
      placeholder ++ text = more ++ (placeholder ++ rest) →
      more = [] := by
    intro more text rest hmore heq
    by_contra hne
    exact not_prefix_append hmore hne rest
      (heq ▸ List.prefix_append placeholder text)
  rcases List.append_eq_append_iff.1 h
    with ⟨more, rfl, hrest⟩ | ⟨more, rfl, hrest⟩
  · have hmore := hnil
      (hother.of_infix (List.suffix_append part more).isInfix) hrest
    subst hmore
    exact ⟨(List.append_nil part).symm, List.append_cancel_left hrest⟩
  · have hmore := hnil
      (hpart.of_infix (List.suffix_append other more).isInfix) hrest
    subst hmore
    exact ⟨List.append_nil other, (List.append_cancel_left hrest).symm⟩

/-- A text that goes on behind a placeholder is not bare. -/
theorem not_bare_append (part text : List Char) :
    ¬ Bare (part ++ (placeholder ++ text)) :=
  not_not.2 (List.infix_append' part placeholder text)

/-- A text has no more than one outline. -/
theorem filled_injective :
    Function.Injective (Outline.filled placeholder) := by
  intro outline other h
  induction outline generalizing other with
  | last part bare =>
      cases other with
      | last part' bare' =>
          cases (h : part = part')
          rfl
      | before part' bare' rest' =>
          have hpart : part = _ := h
          exact absurd (hpart ▸ bare) (not_bare_append part' _)
  | before part bare rest ih =>
      cases other with
      | last part' bare' =>
          have hpart : _ = part' := h
          exact absurd (hpart ▸ bare') (not_bare_append part _)
      | before part' bare' rest' =>
          obtain ⟨rfl, hrest⟩ := append_placeholder_inj bare bare' h
          rw [ih hrest]

/-- To fill a text is to put the name where its outline has gaps. -/
theorem fill_filled (name : List Char) (outline : Outline) :
    fill name 0 (outline.filled placeholder) = outline.filled name := by
  induction outline with
  | last part bare => exact fill_of_bare bare name
  | before part bare rest ih =>
      rw [Outline.filled, fill_append_placeholder bare, ih,
        Outline.filled]

/-- Filling brings in nothing but what is in the text and in the name. -/
theorem mem_or_mem_of_mem_fill {c : Char} {name text : List Char}
    (h : c ∈ fill name 0 text) : c ∈ name ∨ c ∈ text := by
  obtain ⟨outline, rfl⟩ := exists_outline text
  rw [fill_filled] at h
  induction outline with
  | last part bare => exact .inr h
  | before part bare rest ih =>
      rw [Outline.filled, List.mem_append, List.mem_append] at h ⊢
      rcases h with hpart | hname | hrest
      · exact .inr (.inl hpart)
      · exact .inl hname
      · exact (ih hrest).imp_right fun hlater => .inr (.inr hlater)

/-- A longer name does not make the filled text shorter. -/
theorem length_fill_le {name longer : List Char}
    (h : name.length ≤ longer.length) (text : List Char) :
    (fill name 0 text).length ≤ (fill longer 0 text).length := by
  obtain ⟨outline, rfl⟩ := exists_outline text
  rw [fill_filled, fill_filled]
  induction outline with
  | last part bare => exact Nat.le_refl _
  | before part bare rest ih =>
      simp only [Outline.filled, List.length_append]
      omega

end SchemaPress.NamePattern
