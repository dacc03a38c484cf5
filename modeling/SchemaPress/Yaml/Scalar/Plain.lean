/-
Plain scalars: text without quotes. It runs until something that cannot
belong to it: a colon with white space behind it, a comment, a mark of
document start or end, inside brackets also a bracket or a comma, and
outside brackets a line that is not indented deeper than the collection
around it.

White space inside belongs to the text only if more text follows, so a
gap is held back until the next word is there.
-/
import SchemaPress.Yaml.Scalar.Gap

namespace SchemaPress.Yaml.Plain

/-- Whether a character structures a collection in brackets. -/
def isFlowIndicator (c : Char) : Bool :=
  c == ',' || c == '[' || c == ']' || c == '\x7b' || c == '\x7d'

/-- The next word. Inside brackets a colon right before another
structuring character is an error. -/
def word? (flow : Bool) : List Char → Option (List Char)
  | [] => some []
  | c :: rest =>
      let follows (p : Char → Bool) : Bool := rest.head?.any p
      if isSpace c then some []
      else if flow && c == ':'
          && follows (fun x => isFlowIndicator x || x == '?') then none
      else if c == ':' && (rest.isEmpty || follows isSpace) then some []
      else if flow && isFlowIndicator c then some []
      else (word? flow rest).map (c :: ·)

/-- What was read: the text, whether the white space after it crosses a
line, and the place after that white space. -/
structure Reading where
  text : List Char
  broken : Bool
  after : Cursor

/-- Reads on, with `gap` held back. The scalar's lines must reach
`margin` outside brackets. -/
def scan? (flow : Bool) (margin : Nat) :
    Nat → List Char → Gap → Cursor → Option Reading
  | 0, text, gap, c => some ⟨text, gap.broken, c⟩
  | fuel + 1, text, gap, c =>
      if c.atDocumentMark || c.sees '#' then some ⟨text, gap.broken, c⟩
      else do
        let word ← word? flow c.rest
        let after := c.advance word.length
        let text := if word.isEmpty then text else text ++ gap.text ++ word
        let gap := if word.isEmpty then gap else Gap.none
        if !after.seesAny isSpace then
          return ⟨text, gap.broken, after⟩
        let (gap, c) ← Gap.scan? margin (after.rest.length + 1) gap after
        if !flow && c.column < margin then return ⟨text, gap.broken, c⟩
        else scan? flow margin fuel text gap c

end SchemaPress.Yaml.Plain
