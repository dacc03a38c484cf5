/-
Templates without line ends.

Reading a template takes three steps: it is cut into pieces, they are laid
out, and the tags are nested. Much of what is said there is about lines,
about backslashes, and about text that is taken as it is. Where none of
that occurs, the three steps only pass things on. Such a template is a
text, and then tags with a text behind each (`Line`); the texts can be
empty, so nothing else has to be said about their order.

The pieces are then the texts and the tags, but for texts that are empty
(`split?_line`). A tag could still be alone on its line, since there is
one; it would have to stand at its start and at its end, so that takes a
template of a single tag. In all others the layout changes nothing
(`foldlM_parts`).

Nesting is left. A body that ends where it started adds its elements to
what is around it, whatever that is (`Nests`), and this is kept when
bodies are put one behind the other or inside a block. So the elements of
a template are found by going through it once (`ofSource_line`).
-/
import SchemaPress.Proofs.Template.Reading
import SchemaPress.Template.Nesting

namespace SchemaPress.Template

-- =================================================================== text

/-- Text that stands in a template as it is written: it has no braces, no
backslashes and no line ends. -/
structure PlainText where
  chars : List Char
  plain : ∀ c ∈ chars, c ∉ ['{', '}', '\\', '\n', '\r']

namespace PlainText

def empty : PlainText := ⟨[], by simp⟩

def append (s t : PlainText) : PlainText where
  chars := s.chars ++ t.chars
  plain := by
    intro c hc
    rcases List.mem_append.1 hc with hs | ht
    · exact s.plain c hs
    · exact t.plain c ht

/-- The pieces of a text: itself, unless it is empty. -/
def pieces (t : PlainText) : List Piece :=
  Piece.textOf ⟨t.chars, t.chars⟩

/-- The parts of a text. -/
def parts (t : PlainText) : List Part :=
  if t.chars.isEmpty then [] else [.text (String.ofList t.chars)]

/-- The elements of a text. -/
def elements (t : PlainText) : Template :=
  if t.chars.isEmpty then [] else [.text (String.ofList t.chars)]

theorem not_isLineEnd (t : PlainText) {c : Char} (h : c ∈ t.chars) :
    Layout.isLineEnd c = false := by
  have hc := t.plain c h
  simp only [List.mem_cons, not_or] at hc
  obtain ⟨-, -, -, hfeed, hreturn, -⟩ := hc
  simp [Layout.isLineEnd, hfeed, hreturn]

end PlainText

-- ================================================================== lines

/-- Whether a tag is a value, a call, or the start or the end of a
block. -/
def Tag.isBasic : Tag → Bool
  | .value _ | .call _ _ | .blockStart _ _ _ | .blockEnd _ => true
  | _ => false

/-- A tag with its spelling, from which it is read wherever it stands. -/
structure Mark where
  /-- What stands between the braces. -/
  inside : String
  tag : Tag
  basic : tag.isBasic = true
  reads : ∀ rest, Tag.read? Tag.any
      ('{' :: '{' :: (inside.toList ++ '}' :: '}' :: rest))
    = some (⟨tag, false, false, true⟩, rest)

/-- Places with text around each of them. -/
structure Spaced (α : Type) where
  lead : PlainText
  /-- The places, and the text behind each. -/
  rest : List (α × PlainText)

/-- A template without line ends. -/
abbrev Line := Spaced Mark

namespace Spaced

variable {α β : Type}

/-- Places and texts in their order, given what becomes of either. -/
def flat (ofText : PlainText → List β) (ofPlace : α → List β)
    (s : Spaced α) : List β :=
  ofText s.lead ++ s.rest.flatMap fun x => ofPlace x.1 ++ ofText x.2

theorem flat_cons (ofText : PlainText → List β) (ofPlace : α → List β)
    (t u : PlainText) (place : α) (rest : List (α × PlainText)) :
    flat ofText ofPlace ⟨t, (place, u) :: rest⟩
      = ofText t ++ (ofPlace place ++ flat ofText ofPlace ⟨u, rest⟩) := by
  simp [flat]

end Spaced

namespace Mark

def source (m : Mark) : List Char :=
  '{' :: '{' :: (m.inside.toList ++ ['}', '}'])

def markup (m : Mark) : Markup := ⟨m.tag, false, false, true⟩

def pieces (m : Mark) : List Piece := [.tag m.markup]

/-- The parts of a tag that is neither alone nor indented. -/
def parts (m : Mark) : List Part := [.tag m.tag false "" true]

theorem read?_source (m : Mark) (rest : List Char) :
    Tag.read? Tag.any (m.source ++ rest) = some (m.markup, rest) := by
  rw [← show _ = some (m.markup, rest) from m.reads rest]
  simp [source]

/-- Only an inclusion minds how far it is indented. -/
theorem part?_indent (m : Mark) (s : Nesting.State) (alone : Bool)
    (indent : String) (sound : Bool) :
    s.part? (.tag m.tag alone indent sound)
      = s.part? (.tag m.tag alone "" sound) := by
  have hbasic := m.basic
  cases htag : m.tag with
  | inclusion name arguments => rw [htag] at hbasic; cases hbasic
  | _ => rfl

end Mark

namespace Line

def source (l : Line) : List Char :=
  Spaced.flat PlainText.chars Mark.source l

def pieces (l : Line) : List Piece :=
  Spaced.flat PlainText.pieces Mark.pieces l

def parts (l : Line) : List Part :=
  Spaced.flat PlainText.parts Mark.parts l

end Line

-- ================================================================= pieces

/-- Splitting takes in a plain text and stops behind it. -/
theorem Stretch.split_plain (t : PlainText) {rest : List Char}
    (h : rest = [] ∨ ∃ more, rest = '{' :: '{' :: more) :
    Stretch.split false 0 (t.chars ++ rest)
      = (⟨t.chars, t.chars⟩, rest) := by
  obtain ⟨chars, hplain⟩ := t
  induction chars with
  | nil =>
      rcases h with rfl | ⟨more, rfl⟩
      · rfl
      · rw [List.nil_append]
        -- whether there are two braces or four, a tag starts here
        unfold split
        split
        case h_4 hbraces _ heq =>
            cases heq
            exact absurd rfl (hbraces more rfl)
        all_goals simp_all [empty]
  | cons c chars ih =>
      have hc := hplain c (List.mem_cons_self ..)
      have hrest : Stretch.split false 0 (chars ++ rest)
          = (⟨chars, chars⟩, rest) :=
        ih fun c h => hplain c (List.mem_cons_of_mem _ h)
      simp only [List.mem_cons, not_or] at hc
      obtain ⟨hbrace, -, hslash, -⟩ := hc
      rw [List.cons_append, split.eq_4]
      · rw [hrest]
        rfl
      all_goals simp_all

theorem Line.source_cons (t u : PlainText) (m : Mark)
    (rest : List (Mark × PlainText)) :
    Line.source ⟨t, (m, u) :: rest⟩
      = t.chars ++ (m.source ++ Line.source ⟨u, rest⟩) :=
  Spaced.flat_cons ..

/-- There are no more tags in a line than characters. -/
theorem Line.length_le_source (t : PlainText)
    (rest : List (Mark × PlainText)) :
    rest.length ≤ (Line.source ⟨t, rest⟩).length := by
  induction rest generalizing t with
  | nil => exact Nat.zero_le _
  | cons first rest ih =>
      have hrest := ih first.2
      rw [Line.source_cons, List.length_append, List.length_append,
        Mark.source, List.length_cons, List.length_cons, List.length_cons]
      omega

theorem Line.pieces_cons (t u : PlainText) (m : Mark)
    (rest : List (Mark × PlainText)) :
    Line.pieces ⟨t, (m, u) :: rest⟩
      = t.pieces ++ .tag m.markup :: Line.pieces ⟨u, rest⟩ :=
  Spaced.flat_cons ..

/-- A tag of a line starts no block of plain text. -/
theorem Mark.tag_ne_rawStart (m : Mark) (name : String)
    (arguments : Arguments) (parameters : List String) :
    m.tag ≠ .rawStart name arguments parameters := by
  intro htag
  have hbasic := m.basic
  rw [htag] at hbasic
  cases hbasic

/-- The pieces of a line are its texts and its tags. -/
theorem split?_line (t : PlainText) (rest : List (Mark × PlainText))
    {fuel : Nat} (h : rest.length < fuel) :
    Piece.split? fuel (Line.source ⟨t, rest⟩)
      = some (Line.pieces ⟨t, rest⟩) := by
  obtain ⟨fuel, rfl⟩ := Nat.exists_eq_succ_of_ne_zero (Nat.ne_zero_of_lt h)
  induction rest generalizing t fuel with
  | nil =>
      rw [Piece.split?, Line.source, Spaced.flat, List.flatMap_nil,
        Stretch.split_plain t (.inl rfl)]
      simp [Line.pieces, Spaced.flat, PlainText.pieces]
  | cons first rest ih =>
      obtain ⟨m, u⟩ := first
      have hlt : rest.length < fuel := Nat.lt_of_succ_lt_succ h
      obtain ⟨fuel, rfl⟩ :=
        Nat.exists_eq_succ_of_ne_zero (Nat.ne_zero_of_lt hlt)
      have hmore : Piece.split? (fuel + 1) (Line.source ⟨u, rest⟩)
          = some (Line.pieces ⟨u, rest⟩) :=
        ih u fuel hlt
      have hsplit : Stretch.split false 0
            (t.chars ++ (m.source ++ Line.source ⟨u, rest⟩))
          = (⟨t.chars, t.chars⟩, m.source ++ Line.source ⟨u, rest⟩) :=
        Stretch.split_plain t (.inr ⟨_, rfl⟩)
      have hopen : (m.source ++ Line.source ⟨u, rest⟩).isEmpty = false :=
        rfl
      rw [Line.source_cons, Line.pieces_cons, Piece.split?, hsplit]
      simp only [hopen, Bool.false_eq_true, if_false, m.read?_source,
        Option.bind_eq_bind, Option.bind_some]
      split
      · next htag => exact absurd htag (m.tag_ne_rawStart _ _ _)
      · rw [hmore]
        rfl

-- ================================================================= layout

theorem Line.parts_cons (t u : PlainText) (m : Mark)
    (rest : List (Mark × PlainText)) :
    Line.parts ⟨t, (m, u) :: rest⟩
      = t.parts ++ .tag m.tag false "" true :: Line.parts ⟨u, rest⟩ :=
  Spaced.flat_cons ..

namespace Layout

/-- The line does not end behind a tag with more tags to come. -/
theorem endsLine_pieces (t : PlainText) {rest : List (Mark × PlainText)}
    (h : rest ≠ []) : endsLine (Line.pieces ⟨t, rest⟩) = false := by
  cases rest with
  | nil => exact absurd rfl h
  | cons first rest =>
      rw [Line.pieces_cons, PlainText.pieces, Piece.textOf]
      split
      · rfl
      · show (t.chars.dropWhile isGap).head?.any isLineEnd = false
        rw [Option.any_eq_false]
        intro c hc
        rw [t.not_isLineEnd
          ((List.dropWhile_sublist _).subset (List.mem_of_mem_head? hc))]

/-- No tag can be alone on a line of which these are left: the first one
shows, or it is not the last. -/
def Crowded : List (Mark × PlainText) → Prop
  | [] => True
  | (m, _) :: rest => isSilent m.tag = true → rest ≠ []

theorem isAlone_eq_false {p : Position} {m : Mark} {u : PlainText}
    {rest : List (Mark × PlainText)}
    (h : p.lineEmpty = true → Crowded ((m, u) :: rest)) :
    isAlone p m.tag (Line.pieces ⟨u, rest⟩) = false := by
  unfold isAlone
  cases hempty : p.lineEmpty with
  | false => simp
  | true =>
      cases hsilent : isSilent m.tag with
      | false => rfl
      | true => rw [endsLine_pieces u (h hempty hsilent)]; rfl

/-- A position from which nothing is removed of the text that follows. -/
structure Position.Quiet (p : Position) : Prop where
  trimming : p.trimming = false
  endingLine : p.endingLine = false

/-- The position behind a text, which may be empty. -/
def Position.behind (t : PlainText) (p : Position) : Position :=
  if t.chars.isEmpty then p else p.past t.chars

theorem Position.Quiet.behind {p : Position} (h : p.Quiet)
    (t : PlainText) : (p.behind t).Quiet := by
  unfold Position.behind
  split
  · exact h
  · exact ⟨h.trimming, h.endingLine⟩

theorem mem_of_mem_dropEndWhile {p : Char → Bool} {c : Char}
    {text : List Char} (h : c ∈ Text.dropEndWhile p text) : c ∈ text := by
  unfold Text.dropEndWhile at h
  exact List.mem_reverse.1
    ((List.dropWhile_sublist _).subset (List.mem_reverse.1 h))

/-- Plain text does not start a new line. -/
theorem Position.lineEmpty_of_behind {p : Position} {t : PlainText}
    (h : (p.behind t).lineEmpty = true) : p.lineEmpty = true := by
  unfold Position.behind at h
  split at h
  · exact h
  · unfold Position.past at h
    simp only at h
    split at h
    · next c hlast =>
        have hmem : c ∈ t.chars :=
          mem_of_mem_dropEndWhile (List.mem_of_getLast? hlast)
        rw [t.not_isLineEnd hmem] at h
        cases h
    · exact h

/-- Text passes through the layout unless what follows removes some of
it. -/
theorem parts_text {p : Position} (hquiet : p.Quiet) {t : PlainText}
    {more : List Piece}
    (h : writtenBefore (p.behind t) more t.chars = t.chars) :
    parts p (t.pieces ++ more)
      = t.parts ++ parts (p.behind t) more := by
  unfold PlainText.pieces PlainText.parts Piece.textOf
  unfold Position.behind at h ⊢
  cases hempty : t.chars.isEmpty with
  | true => rfl
  | false =>
      rw [hempty] at h
      obtain ⟨trimming, endingLine, lineEmpty, gap⟩ := p
      obtain ⟨htrimming, hending⟩ := hquiet
      cases htrimming
      cases hending
      simp only [Bool.false_eq_true, if_false] at h ⊢
      rw [List.singleton_append, parts]
      simp only [Bool.false_and, Bool.false_eq_true, if_false,
        writtenAfter, h]
      rfl

/-- A tag that is not alone removes nothing. -/
theorem writtenBefore_tag {p : Position} {m : Mark} {more : List Piece}
    (h : isAlone p m.tag more = false) (text : List Char) :
    writtenBefore p (.tag m.markup :: more) text = text := by
  show (if isAlone p m.tag more then _ else text) = text
  rw [h]
  rfl

theorem Position.Quiet.pastTag {p : Position} (hquiet : p.Quiet)
    {m : Mark} {more : List Piece} (h : isAlone p m.tag more = false) :
    (p.pastTag m.markup more).Quiet where
  trimming := by
    unfold Position.pastTag
    simp only
    split
    · exact hquiet.trimming
    · rfl
  endingLine := by
    show (if isSilent m.tag then isAlone p m.tag more else p.endingLine)
      = false
    rw [h, hquiet.endingLine, ite_self]

/-- A line passes through the layout, so that the parts that are nested
are its texts and its tags. -/
theorem foldlM_parts {p : Position} (hquiet : p.Quiet) (t : PlainText)
    {rest : List (Mark × PlainText)}
    (hcrowded : p.lineEmpty = true → Crowded rest) (s : Nesting.State) :
    (parts p (Line.pieces ⟨t, rest⟩)).foldlM Nesting.State.part? s
      = (Line.parts ⟨t, rest⟩).foldlM Nesting.State.part? s := by
  induction rest generalizing p t s with
  | nil =>
      have hparts : parts p (t.pieces ++ []) = t.parts ++ [] :=
        parts_text hquiet rfl
      show (parts p (t.pieces ++ [])).foldlM _ s
        = (t.parts ++ []).foldlM _ s
      rw [hparts]
  | cons first rest ih =>
      obtain ⟨m, u⟩ := first
      have halone : isAlone (p.behind t) m.tag (Line.pieces ⟨u, rest⟩)
          = false :=
        isAlone_eq_false fun h =>
          hcrowded (Position.lineEmpty_of_behind h)
      rw [Line.pieces_cons, Line.parts_cons,
        parts_text hquiet (writtenBefore_tag halone _), List.foldlM_append,
        List.foldlM_append]
      congr 1
      funext s
      have htag := m.part?_indent s false
        (indentAt m.markup (p.behind t)) true
      rw [parts, List.foldlM_cons, List.foldlM_cons, ← htag]
      show (s.part? (.tag m.tag (isAlone (p.behind t) m.tag _ && true) _
        true) >>= _) = _
      rw [halone]
      congr 1
      funext s
      -- behind a tag the line is not empty any more
      exact ih ((hquiet.behind t).pastTag halone) u
        (fun h => by cases h) s

end Layout

-- ================================================================ nesting

open Nesting

/-- Parts that add elements to the innermost body, whatever is around
it. -/
def Nests (parts : List Part) (elements : Template) : Prop :=
  ∀ s : State, parts.foldlM State.part? s
    = some { s with body := s.body ++ elements }

theorem nests_nil : Nests [] [] := by
  intro s
  rw [List.append_nil]
  rfl

theorem Nests.append {parts more : List Part}
    {elements others : Template} (h : Nests parts elements)
    (hmore : Nests more others) :
    Nests (parts ++ more) (elements ++ others) := by
  intro s
  rw [List.foldlM_append, h s, ← List.append_assoc]
  exact hmore _

theorem PlainText.nests (t : PlainText) : Nests t.parts t.elements := by
  intro s
  unfold parts elements
  cases hempty : t.chars.isEmpty with
  | true => exact nests_nil s
  | false =>
      have htext : (String.ofList t.chars).isEmpty = false := by
        rw [String.isEmpty_eq_false_iff, Ne, String.ofList_eq_empty_iff]
        exact List.isEmpty_eq_false_iff.1 hempty
      show (some (if (String.ofList t.chars).isEmpty then s else
        s.add (.text (String.ofList t.chars))) >>= _) = _
      rw [htext]
      rfl

theorem nests_value (value : Expr) :
    Nests [.tag (.value value) false "" true] [.value value] :=
  fun _ => rfl

theorem nests_call (name : String) (arguments : Arguments) :
    Nests [.tag (.call name arguments) false "" true]
      [.call name arguments] :=
  fun _ => rfl

/-- Parts between the start and the end of a block are its body. -/
theorem Nests.block {parts : List Part} {elements : Template}
    (h : Nests parts elements) {name : String} (hname : isName name = true)
    (arguments : Arguments) (parameters : List String) :
    Nests (.tag (.blockStart name arguments parameters) false "" true
        :: (parts ++ [.tag (.blockEnd name) false "" true]))
      [.block name arguments parameters false elements none] := by
  intro s
  rw [List.foldlM_cons]
  show ((parts ++ _).foldlM State.part?
    (s.open (.block false name arguments parameters false none))) = _
  rw [List.foldlM_append, h]
  simp only [Option.bind_eq_bind, Option.bind_some, List.foldlM_cons,
    List.foldlM_nil, Option.pure_def, Option.bind_fun_some]
  rw [State.part?, if_pos rfl, State.tag?, State.close?]
  simp only [State.open, hname, if_true, closeChain?, Bool.false_eq_true,
    if_false, Option.bind_eq_bind, Option.bind_some, State.compare]
  rfl

/-- A line reads as the elements that its parts add. -/
theorem ofSource_line {l : Line} (hcrowded : Layout.Crowded l.rest)
    {elements : Template} (h : Nests l.parts elements) :
    ofSource (String.ofList l.source) = .ok elements := by
  obtain ⟨t, rest⟩ := l
  have hpieces : Piece.ofSource? (String.ofList (Line.source ⟨t, rest⟩))
      = some (Line.pieces ⟨t, rest⟩) := by
    rw [Piece.ofSource?, String.toList_ofList]
    refine split?_line t rest ?_
    rw [String.length_ofList]
    exact Nat.lt_succ_of_le (Line.length_le_source t rest)
  have hparts : (Layout.parts .start (Line.pieces ⟨t, rest⟩)).foldlM
      State.part? State.start = some ⟨elements, [], none⟩ := by
    rw [Layout.foldlM_parts ⟨rfl, rfl⟩ t (fun _ => hcrowded), h]
    rfl
  rw [ofSource, hpieces]
  show ofParts (Layout.parts .start (Line.pieces ⟨t, rest⟩)) = _
  rw [ofParts, hparts]

end SchemaPress.Template
