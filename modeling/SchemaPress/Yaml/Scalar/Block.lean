/-
Block scalars: indented text under a header. The header says whether line
breaks are kept (`|`) or folded (`>`), what happens to the breaks at the
end, and, where the first line does not show it, how deep the text is
indented.

# Folding

Between two lines that both start with text a single break becomes a
space, and of several breaks the first vanishes. A line that starts with
a blank keeps the breaks on both of its sides.

# The end

By default the last line keeps its break and the empty lines after it
are dropped; `-` drops that break too, and `+` keeps everything.
-/
import SchemaPress.Yaml.Cursor

namespace SchemaPress.Yaml.Block

/-- What happens to the line breaks at the end. -/
inductive Chomp where
  | strip
  | clip
  | keep
  deriving DecidableEq

/-- The header: chomping, and the indentation when it is given. -/
structure Header where
  chomp : Chomp
  indentation : Option Nat

/-- Reads the sign of a header. -/
def chompOf? : Char → Option Chomp
  | '+' => some .keep
  | '-' => some .strip
  | _ => none

/-- Reads the digit of a header. Zero is no indentation. -/
def indentationOf? (c : Char) : Option Nat :=
  if c.isDigit && c != '0' then some (c.toNat - '0'.toNat) else none

/-- Reads the header behind its indicator, in either order of sign and
digit. -/
def header? (c : Cursor) : Option (Header × Cursor) :=
  let sign := c.peek?.bind chompOf?
  match sign with
  | some chomp =>
      let c := c.next
      if c.seesAny Char.isDigit then do
        let n ← c.peek?.bind indentationOf?
        return (⟨chomp, some n⟩, c.next)
      else some (⟨chomp, none⟩, c)
  | none =>
      if c.seesAny Char.isDigit then do
        let n ← c.peek?.bind indentationOf?
        let c := c.next
        match c.peek?.bind chompOf? with
        | some chomp => return (⟨chomp, some n⟩, c.next)
        | none => return (⟨.clip, some n⟩, c)
      else some (⟨.clip, none⟩, c)

-- ======================================================= empty lines

/-- Empty lines as they are read: their breaks and the widest
indentation seen. -/
structure Empty where
  breaks : List Char
  widest : Nat

/-- Reads empty lines and the indentation of the line after them, up to
`indentation` columns when that is known. A tab within the indentation
is refused. -/
def empty? (indentation : Option Nat) :
    Nat → Empty → Cursor → Option (Empty × Cursor)
  | 0, seen, c => some (seen, c)
  | fuel + 1, seen, c =>
      let room := match indentation with
        | some n => n - c.column
        | none => c.rest.length
      let spaces := (c.rest.take room).takeWhile (· == ' ')
      let c := c.advance spaces.length
      let seen := { seen with widest := max seen.widest c.column }
      let inside := match indentation with
        | some n => decide (c.column < n)
        | none => true
      if inside && c.sees '\t' then none
      else if c.seesAny isBreak then
        empty? indentation fuel
          { seen with breaks := seen.breaks ++ c.breakText } c.nextLine
      else some (seen, c)

-- =============================================================== lines

/-- What has been read of a block scalar: its text, the break after the
last line, the breaks of the empty lines after that, and whether the
last line starts with a blank. -/
structure Lines where
  text : List Char
  lastBreak : List Char
  emptyBreaks : List Char
  blank : Bool

/-- The text with the breaks before the next line settled. -/
def Lines.joined (folded : Bool) (blank : Bool) (lines : Lines) :
    List Char :=
  let folds := folded && lines.lastBreak.head? == some '\n'
    && !lines.blank && !blank
  if folds then
    if lines.emptyBreaks.isEmpty then lines.text ++ [' ']
    else lines.text ++ lines.emptyBreaks
  else lines.text ++ lines.lastBreak ++ lines.emptyBreaks

/-- Reads the lines that stand at the indentation. -/
def lines? (folded : Bool) (indentation : Nat) :
    Nat → Lines → Cursor → Option (Lines × Cursor)
  | 0, lines, c => some (lines, c)
  | fuel + 1, lines, c =>
      if c.column != indentation || c.atEnd then some (lines, c)
      else do
        let blank := c.seesAny isBlank
        let text := lines.joined folded blank
        let (line, c) := c.takeWhile fun x => !isBreak x
        let lastBreak := c.breakText
        let (seen, c) ←
          empty? (some indentation) (c.rest.length + 1) ⟨[], 0⟩ c.nextLine
        lines? folded indentation fuel
          ⟨text ++ line, lastBreak, seen.breaks, blank⟩ c

/-- Reads a block scalar behind its indicator. The collection around it
is indented by `outer` columns, by none at the top of a document. -/
def scan? (folded : Bool) (outer : Option Nat) (c : Cursor) :
    Option (List Char × Cursor) := do
  let (header, c) ← header? c
  let c ← c.finishLine?
  let given := header.indentation.map (outer.getD 0 + ·)
  let fuel := c.rest.length + 1
  let (seen, c) ← empty? given fuel ⟨[], 0⟩ c
  let least := match outer with
    | some n => n + 1
    | none => 1
  let indentation := given.getD (max seen.widest least)
  let (lines, c) ←
    lines? folded indentation fuel ⟨[], [], seen.breaks, false⟩ c
  let text := match header.chomp with
    | .strip => lines.text
    | .clip => lines.text ++ lines.lastBreak
    | .keep => lines.text ++ lines.lastBreak ++ lines.emptyBreaks
  return (text, c)

end SchemaPress.Yaml.Block
