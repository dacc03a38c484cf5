/-
Gaps: the white space inside a scalar that is written over several words
or lines.

Within a line a gap stands for itself. Once it crosses a line break the
blanks on both sides are layout and vanish, and the breaks fold: a single
one becomes a space, and of several the first vanishes and the others
stay. A separator character in first place does not fold; it stays with
all that follow.
-/
import SchemaPress.Yaml.Cursor

namespace SchemaPress.Yaml

/-- White space between two words of a scalar. -/
structure Gap where
  /-- The blanks before the first line break. -/
  blanks : List Char
  /-- Whether a line break was crossed. -/
  broken : Bool
  /-- The first line break. -/
  first : List Char
  /-- The line breaks after it. -/
  more : List Char

namespace Gap

/-- No white space at all. -/
def none : Gap := ⟨[], false, [], []⟩

/-- A line break that was escaped: it counts as crossed and leaves
nothing behind. -/
def escapedBreak : Gap := ⟨[], true, [], []⟩

/-- What a gap contributes to the scalar. -/
def text (gap : Gap) : List Char :=
  if gap.broken then
    if gap.first.head? == some '\n' then
      if gap.more.isEmpty then [' '] else gap.more
    else gap.first ++ gap.more
  else gap.blanks

/-- Reads white space into a gap. A tab in the indentation of a line,
left of `margin`, is refused. -/
def scan? (margin : Nat) : Nat → Gap → Cursor → Option (Gap × Cursor)
  | 0, gap, c => some (gap, c)
  | fuel + 1, gap, c =>
      match c.peek? with
      | some x =>
          if isBlank x then
            if gap.broken && c.column < margin && x == '\t' then Option.none
            else if gap.broken then scan? margin fuel gap c.next
            else
              scan? margin fuel
                { gap with blanks := gap.blanks ++ [x] } c.next
          else if isBreak x then
            let crossed :=
              if gap.broken then
                { gap with more := gap.more ++ c.breakText }
              else { gap with broken := true, first := c.breakText }
            scan? margin fuel crossed c.nextLine
          else some (gap, c)
      | Option.none => some (gap, c)

end Gap

end SchemaPress.Yaml
