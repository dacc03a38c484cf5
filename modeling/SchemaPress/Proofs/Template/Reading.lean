/-
How tags are read.

A grammar is a step on the text that is left, and what it does with a
text is settled once the text is known far enough. So the rules come in
two kinds. A grammar `Reads` a value from a text up to a rest, or it
`Fails` on the text, and grammars that are put together read what their
parts read (`Reads.bind`, `Reads.orElse`, `Fails.orElse`). An alternative
that fails does so early, on the first characters, whatever comes after:
that is a computation.

The exception are references. A reference keeps its spelling, and the
spelling is cut out of the text by the length of what is left, which no
computation finds as long as the rest is open. But nothing else depends
on it. So the other parts of a reference are computed, and the spelling
is what stands in front of the rest (`Reference.ofChars?_eq`).

In the end there is one rule for each form of tag: a reference alone
(`read?_value`), a call with a reference (`read?_call`) and the start of a
block over one (`read?_start`).
-/
import SchemaPress.Proofs.Template.Scope
import SchemaPress.Template.Tag

namespace SchemaPress.Template

-- ============================================================== references

namespace Reference

/-- A reference is spelled as what was read of the text. -/
theorem spelling_of_ofChars? {word after : List Char}
    {target : Reference}
    (h : ofChars? (word ++ after) = some (target, after)) :
    target.spelling = String.ofList word := by
  unfold ofChars? at h
  simp only [Option.bind_eq_bind, Option.bind_eq_some_iff] at h
  obtain ⟨⟨names, rest⟩, -, heq⟩ := h
  simp only [pure, Option.some.injEq, Prod.mk.injEq] at heq
  obtain ⟨rfl, rfl⟩ := heq
  simp

/-- A reference is read as soon as its parts but for the spelling are
known, and what is left. -/
theorem ofChars?_eq {word after : List Char} (target : Reference)
    (hword : target.spelling = String.ofList word)
    (h : (ofChars? (word ++ after)).map (fun (found, left) =>
        (found.fromRoot, found.isLocal, found.ups, found.names, left))
      = some (target.fromRoot, target.isLocal, target.ups, target.names,
          after)) :
    ofChars? (word ++ after) = some (target, after) := by
  obtain ⟨⟨found, left⟩, hfound, heq⟩ := Option.map_eq_some_iff.1 h
  obtain ⟨spelling, fromRoot, isLocal, ups, names⟩ := found
  obtain ⟨spelled, root, loc, steps, way⟩ := target
  simp only [Prod.mk.injEq] at heq
  obtain ⟨rfl, rfl, rfl, rfl, rfl⟩ := heq
  have hspelling : spelling = String.ofList word :=
    spelling_of_ofChars? hfound
  rw [hfound, hspelling, ← show spelled = String.ofList word from hword]

end Reference

-- ================================================================ grammars

namespace Grammar

variable {α β : Type} {g other : Grammar α} {next : α → Grammar β}
  {text between after : List Char} {a : α} {b : β}

/-- From sound input a grammar reads a value, up to a rest. -/
def Reads (g : Grammar α) (text : List Char) (value : α)
    (after : List Char) : Prop :=
  StateT.run g ⟨text, true⟩ = some (value, ⟨after, true⟩)

/-- A grammar can read nothing from a text. -/
def Fails (g : Grammar α) (text : List Char) : Prop :=
  StateT.run g ⟨text, true⟩ = none

theorem Reads.bind (h : Reads g text a between)
    (hnext : Reads (next a) between b after) :
    Reads (g >>= next) text b after := by
  unfold Reads
  rw [StateT.run_bind, show StateT.run g _ = _ from h]
  exact hnext

theorem Reads.bind_fails (h : Reads g text a between)
    (hnext : Fails (next a) between) : Fails (g >>= next) text := by
  unfold Fails
  rw [StateT.run_bind, show StateT.run g _ = _ from h]
  exact hnext

theorem Fails.bind (h : Fails g text) (next : α → Grammar β) :
    Fails (g >>= next) text := by
  unfold Fails
  rw [StateT.run_bind, show StateT.run g _ = _ from h]
  rfl

theorem Reads.seqRight {other : Grammar β} (h : Reads g text a between)
    (hother : Reads other between b after) :
    Reads (g *> other) text b after :=
  h.bind hother

theorem Fails.seqRight (h : Fails g text) (next : Grammar β) :
    Fails (g *> next) text :=
  h.bind fun _ => next

theorem Reads.map (h : Reads g text a after) (f : α → β) :
    Reads (f <$> g) text (f a) after := by
  unfold Reads
  rw [StateT.run_map, show StateT.run g _ = _ from h]
  rfl

theorem Fails.map (h : Fails g text) (f : α → β) :
    Fails (f <$> g) text := by
  unfold Fails
  rw [StateT.run_map, show StateT.run g _ = _ from h]
  rfl

/-- The first alternative counts if it reads something. -/
theorem Reads.orElse (h : Reads g text a after) (other : Grammar α) :
    Reads (g <|> other) text a after := by
  unfold Reads
  rw [StateT.run_orElse, show StateT.run g _ = _ from h]
  rfl

/-- The second alternative counts if the first one fails. -/
theorem Fails.orElse (h : Fails g text)
    (hother : Reads other text a after) :
    Reads (g <|> other) text a after := by
  unfold Reads
  rw [StateT.run_orElse, show StateT.run g _ = _ from h]
  exact hother

theorem reads_pure (text : List Char) (a : α) :
    Reads (pure a) text a text :=
  rfl

theorem reads_fuel (text : List Char) :
    Reads fuel text (text.length + 1) text :=
  rfl

/-- What cannot be read is not present. -/
theorem Fails.present {g : Grammar Unit} (h : Fails g text) :
    Reads (present g) text false text :=
  (h.bind _).orElse rfl

end Grammar

namespace Tag

open Grammar

variable {text rest : List Char} {target : Reference} {tag : Tag}

-- ============================================================== arguments

theorem reads_reference {after : List Char}
    (h : Reference.ofChars? text = some (target, after)) :
    Reads reference text (.reference target) after := by
  have hrest : Reads Grammar.rest text text text := rfl
  refine hrest.bind ?_
  rw [h]
  rfl

/-- A text starts with a reference, and with nothing else that can stand
among arguments. -/
structure Names (target : Reference) (text after : List Char) : Prop where
  blanks : Reads Grammar.blanks text () text
  option : ∀ n, Fails (option n) text
  keyword : Fails keyword text
  literal : Fails Literal.read text
  reference : Reference.ofChars? text = some (target, after)

theorem reads_argument {after : List Char}
    (h : Names target text after) (n : Nat) :
    Reads (argument (n + 1)) text (.reference target) after := by
  have hrefuse : Reads (refuse keyword) text () text := by
    unfold Reads refuse
    rw [StateT.run, show StateT.run keyword _ = _ from h.keyword]
  refine hrefuse.bind (Fails.orElse ?_ ?_)
  · exact h.literal.map _
  · exact (reads_reference h.reference).orElse _

/-- No argument stands before a closing brace. -/
theorem reads_arguments_nil (rest : List Char) (n : Nat) :
    Reads (arguments n) ('}' :: rest) ⟨[], []⟩ ('}' :: rest) := by
  -- with little fuel it is a lack of fuel that keeps arguments away
  rcases n with _ | _ | _ | n <;> rfl

/-- A reference before a closing brace is the only argument. -/
theorem reads_arguments (h : Names target text ('}' :: rest)) (n : Nat) :
    Reads (arguments (n + 2)) (' ' :: text)
      ⟨[.reference target], []⟩ ('}' :: rest) := by
  have hskip : Reads Grammar.blanks (' ' :: text) () text := h.blanks
  refine Fails.orElse ?_ (Reads.orElse ?_ _)
  · exact hskip.bind_fails ((h.option _).bind _)
  · exact hskip.bind <| (reads_argument h n).bind <|
      (reads_arguments_nil rest (n + 1)).bind rfl

theorem reads_application {word : List Char} {callee : String}
    (hname : Reads name word callee (' ' :: text))
    (h : Names target text ('}' :: rest)) (n : Nat) :
    Reads (application (n + 3)) word (callee, ⟨[.reference target], []⟩)
      ('}' :: rest) :=
  hname.bind ((reads_arguments h n).bind rfl)

-- ================================================================= braces

/-- A text of which nothing is skipped behind the braces. -/
structure Bare (text : List Char) : Prop where
  blanks : Reads Grammar.blanks text () text
  tilde : Fails (exactly "~") text

theorem Bare.present (h : Bare text) :
    Reads (present (sign "~")) text false text :=
  Fails.present (h.blanks.bind_fails h.tilde)

theorem reads_opening (text : List Char) :
    Reads (exactly "\x7b\x7b") ('{' :: '{' :: text) () text :=
  rfl

theorem reads_inBraces {inner : Grammar Tag} (hbare : Bare text)
    (h : Reads inner text tag ('}' :: '}' :: rest)) :
    Reads (inBraces inner) ('{' :: '{' :: text)
      ⟨tag, false, false, true⟩ rest :=
  (reads_opening text).bind <| hbare.present.bind <|
    hbare.blanks.bind <| h.bind rfl

theorem fails_inBraces {inner : Grammar Tag} (hbare : Bare text)
    (h : Fails inner text) :
    Fails (inBraces inner) ('{' :: '{' :: text) :=
  (reads_opening text).bind_fails <| hbare.present.bind_fails <|
    hbare.blanks.bind_fails <| h.bind _

-- =================================================================== tags

theorem read?_of_reads {g : Grammar Markup} {markup : Markup}
    (h : Reads g text markup rest) :
    read? g text = some (markup, rest) := by
  rw [read?, show StateT.run g _ = _ from h]
  rfl

/-- What is no separator of bodies is read as an expression first. -/
theorem read?_of_expression (hbare : Bare text)
    (helse : Fails elseMark text)
    (h : Reads expression text tag ('}' :: '}' :: rest)) :
    read? any ('{' :: '{' :: text)
      = some (⟨tag, false, false, true⟩, rest) := by
  refine read?_of_reads (Reads.orElse ?_ rawOpening)
  refine (fails_inBraces hbare (helse.seqRight _)).orElse ?_
  refine (fails_inBraces hbare ((helse.seqRight _).seqRight _)).orElse ?_
  exact (reads_inBraces hbare h).orElse _

/-- Reads a reference alone. -/
theorem read?_value (hbare : Bare text) (helse : Fails elseMark text)
    (happlication : ∀ n, Fails (application n) text)
    (hnested : ∀ n, Fails (nested n) text)
    (h : Reference.ofChars? text = some (target, '}' :: '}' :: rest)) :
    read? any ('{' :: '{' :: text)
      = some (⟨.value (.reference target), false, false, true⟩, rest) := by
  refine read?_of_expression hbare helse ((reads_fuel text).bind ?_)
  refine ((happlication _).bind _).orElse ?_
  have hlone : Reads lone text (.reference target) ('}' :: '}' :: rest) :=
    (reads_fuel text).bind ((hnested _).orElse (reads_reference h))
  exact hlone.map _

/-- Reads a call with a reference. -/
theorem read?_call {c : Char} {word : List Char} {callee : String}
    (hbare : Bare (c :: word)) (helse : Fails elseMark (c :: word))
    (hname : Reads name (c :: word) callee (' ' :: text))
    (h : Names target text ('}' :: '}' :: rest)) :
    read? any ('{' :: '{' :: c :: word)
      = some (⟨.call callee ⟨[.reference target], []⟩, false, false, true⟩,
        rest) := by
  refine read?_of_expression hbare helse ((reads_fuel _).bind ?_)
  have happlication : Reads (application (2 * (word.length + 2)))
      (c :: word) (callee, ⟨[.reference target], []⟩)
      ('}' :: '}' :: rest) :=
    reads_application hname h (2 * word.length + 1)
  exact Reads.orElse (happlication.bind (reads_pure _ (call ..))) _

/-- Reads the start of a block over a reference. -/
theorem read?_start {word : List Char} {callee : String}
    (hblanks : Reads Grammar.blanks word () word)
    (hname : Reads name word callee (' ' :: text))
    (h : Names target text ('}' :: '}' :: rest)) :
    read? any ('{' :: '{' :: '#' :: word)
      = some (⟨.blockStart callee ⟨[.reference target], []⟩ [],
          false, false, true⟩, rest) := by
  have hsign : Reads (exactly "#" *> Grammar.blanks) ('#' :: word) ()
      word :=
    hblanks
  have harguments : Reads (arguments (2 * (text.length + 2)))
      (' ' :: text) ⟨[.reference target], []⟩ ('}' :: '}' :: rest) :=
    reads_arguments h (2 * text.length + 2)
  have hinvocation : Reads invocation word
      (callee, ⟨[.reference target], []⟩) ('}' :: '}' :: rest) :=
    hname.bind ((reads_fuel _).bind (harguments.bind (reads_pure _ _)))
  have hhead : Reads (head .blockStart) word
      (.blockStart callee ⟨[.reference target], []⟩ [])
      ('}' :: '}' :: rest) :=
    hinvocation.bind rfl
  have htag : Reads
      (inBraces (exactly "#" *> Grammar.blanks *> head .blockStart))
      ('{' :: '{' :: '#' :: word)
      ⟨.blockStart callee ⟨[.reference target], []⟩ [],
        false, false, true⟩ rest :=
    reads_inBraces ⟨rfl, rfl⟩ (hsign.seqRight hhead)
  refine read?_of_reads (Reads.orElse ?_ rawOpening)
  -- the five forms that are tried first fail at the number sign
  iterate 5 (refine Fails.orElse ?_ ?_; · rfl)
  exact htag.orElse _

end Tag

end SchemaPress.Template
