/-
The layout of a template: which white space around its tags is written.

# Tildes

A tilde inside a tag removes the white space next to the tag on that
side, line ends included.

# Lines of their own

A tag that is no value and no call does not show in the result, so a line
that holds nothing but such a tag should not show either. It is alone on
its line when only blanks stand before it, back to the last line end or
to the start of the template, and only blanks behind it, up to the next
line end; nothing at all behind it, at the end of the template, will do
as well. The blanks and the line end go with the tag. The blanks before
an inclusion are the indentation of what is included.

Whether a tag is alone is decided by the source; what earlier tags have
removed already makes no difference.
-/
import SchemaPress.Text.Blank
import SchemaPress.Template.Piece

namespace SchemaPress.Template

/-- A part of a template as it is laid out. -/
inductive Part where
  | text (text : String)
  /-- A tag. `alone` if it has a line to itself, the blanks before it
  being its indentation. -/
  | tag (tag : Tag) (alone : Bool) (indent : String) (sound : Bool)

namespace Layout

/-- Whether a character is a blank inside a line. -/
def isGap (c : Char) : Bool := c == ' ' || c == '\t'

/-- Whether a character ends a line. -/
def isLineEnd (c : Char) : Bool := c == '\n' || c == '\r'

/-- What is known between two pieces. -/
structure Position where
  /-- Whether a tilde removes the white space that follows. -/
  trimming : Bool
  /-- Whether a tag that is alone on its line takes the end of the line
  with it. -/
  endingLine : Bool
  /-- Whether only blanks stand in the line so far. -/
  lineEmpty : Bool
  /-- The blanks right before. -/
  gap : List Char

/-- The start of a template. -/
def Position.start : Position := ⟨false, false, true, []⟩

/-- The position behind a stretch of text, as far as the source decides
it. -/
def Position.past (source : List Char) (p : Position) : Position :=
  let solid := Text.dropEndWhile isGap source
  { p with
    lineEmpty := match solid.getLast? with
      | some c => isLineEnd c
      | none => p.lineEmpty
    gap := source.drop solid.length }

/-- Whether the line ends behind a tag, after blanks at most. -/
def endsLine : List Piece → Bool
  | [] => true
  | .tag _ :: _ => false
  | .text s :: _ | .plain s :: _ =>
      (s.source.dropWhile isGap).head?.any isLineEnd

/-- Whether a tag never shows in the result. -/
def isSilent : Tag → Bool
  | .value _ | .call _ _ => false
  | _ => true

/-- Whether a tag at a position is alone on its line. -/
def isAlone (p : Position) (tag : Tag) (rest : List Piece) : Bool :=
  isSilent tag && p.lineEmpty && endsLine rest

/-- A text without the end of the line that it continues. -/
def dropLineEnd (text : List Char) : List Char :=
  match text.dropWhile isGap with
  | '\r' :: '\n' :: rest => rest
  | '\n' :: rest => rest
  | rest => rest

/-- What is written of a stretch of text, as far as what stands before
decides it. -/
def writtenAfter (p : Position) (text : List Char) : List Char :=
  if p.trimming then Text.trimStart text
  else if p.endingLine then dropLineEnd text
  else text

/-- What is written of a stretch of text, as far as what stands behind
decides it; `p` is the position behind it. -/
def writtenBefore (p : Position) (rest : List Piece)
    (text : List Char) : List Char :=
  match rest with
  | .tag m :: rest =>
      let text := if m.trimBefore then Text.trimEnd text else text
      if isAlone p m.tag rest then Text.dropEndWhile isGap text else text
  | _ => text

/-- The position behind a tag. A comment leaves it open whether white
space is removed. -/
def Position.pastTag (m : Markup) (rest : List Piece)
    (p : Position) : Position where
  trimming := match m.tag with
    | .comment => p.trimming
    | _ => m.trimAfter
  endingLine :=
    if isSilent m.tag then isAlone p m.tag rest else p.endingLine
  lineEmpty := false
  gap := []

/-- The indentation of what a tag includes. -/
def indentAt (m : Markup) (p : Position) : String :=
  if m.trimBefore then "" else String.ofList p.gap

/-- Lays out the pieces from a position on. -/
def parts : Position → List Piece → List Part
  | _, [] => []
  | p, .text s :: rest =>
      let after := p.past s.source
      if p.trimming && s.source.all isBlank then parts after rest
      else
        .text (String.ofList
          (writtenBefore after rest (writtenAfter p s.written)))
        :: parts { after with endingLine := false } rest
  | p, .plain s :: rest =>
      let after := p.past s.source
      .text (String.ofList
        (writtenBefore after rest (writtenAfter p s.written)))
      :: parts { after with endingLine := false } rest
  | p, .tag m :: rest =>
      .tag m.tag (isAlone p m.tag rest && !m.trimBefore) (indentAt m p)
        m.sound
      :: parts (p.pastTag m rest) rest

/-- Lays out the pieces of a template. -/
def ofPieces (pieces : List Piece) : List Part :=
  parts .start pieces

end Layout

end SchemaPress.Template
