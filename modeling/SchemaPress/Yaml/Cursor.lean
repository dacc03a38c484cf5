/-
Places in a text. YAML gives meaning to columns and lines, so a reader of
YAML carries a place, not just the text that is left: how many bytes lie
before it, on which line it stands and how many characters into the line.

# Line breaks

There are five, and a carriage return followed by a line feed is one.
A scalar keeps a break as a line feed, except for the two separator
characters, which stand for themselves (`breakText`).
-/

namespace SchemaPress.Yaml

-- ========================================================= characters

/-- Whether a character ends a line. -/
def isBreak (c : Char) : Bool :=
  c == '\n' || c == '\r' || c == '\x85' || c == '\u2028' || c == '\u2029'

/-- Whether a character separates within a line. -/
def isBlank (c : Char) : Bool := c == ' ' || c == '\t'

/-- Whether a character separates at all. -/
def isSpace (c : Char) : Bool := isBlank c || isBreak c

/-- Whether a character can stand in the name of an anchor. -/
def isWord (c : Char) : Bool := c.isAlphanum || c == '_' || c == '-'

/-- Whether a character may occur in a stream at all. Other control
characters, and those that end a string in memory, make it unreadable. -/
def isAllowed (c : Char) : Bool :=
  let n := c.toNat
  n == 0x09 || n == 0x0a || n == 0x0d || n == 0x85
    || (0x20 ≤ n && n ≤ 0x7e) || (0xa0 ≤ n && n ≤ 0xd7ff)
    || (0xe000 ≤ n && n ≤ 0xfffd) || 0x10000 ≤ n

/-- The value of a hexadecimal digit. -/
def hexValue? (c : Char) : Option Nat :=
  if c.isDigit then some (c.toNat - '0'.toNat)
  else if 'a' ≤ c ∧ c ≤ 'f' then some (c.toNat - 'a'.toNat + 10)
  else if 'A' ≤ c ∧ c ≤ 'F' then some (c.toNat - 'A'.toNat + 10)
  else none

-- ============================================================= places

/-- How many bytes spell a text. -/
def byteCount (text : List Char) : Nat :=
  text.foldl (fun count c => count + c.utf8Size) 0

/-- A place in a text: what is left from there on, and where "there"
is. -/
structure Cursor where
  rest : List Char
  /-- How many bytes lie before. -/
  offset : Nat
  line : Nat
  column : Nat

namespace Cursor

/-- The start of a text. -/
def start (text : List Char) : Cursor := ⟨text, 0, 0, 0⟩

/-- The next character. -/
def peek? (c : Cursor) : Option Char := c.rest.head?

/-- Whether the text ends here. -/
def atEnd (c : Cursor) : Bool := c.rest.isEmpty

/-- Whether the next character is `x`. -/
def sees (c : Cursor) (x : Char) : Bool := c.rest.head? == some x

/-- Whether the next character satisfies `p`. -/
def seesAny (c : Cursor) (p : Char → Bool) : Bool := c.rest.head?.any p

/-- Whether a separator or the end of the text follows `n` characters. -/
def separatedAfter (n : Nat) (c : Cursor) : Bool :=
  match c.rest[n]? with
  | some x => isSpace x
  | none => true

/-- Past `n` characters of one line. -/
def advance (n : Nat) (c : Cursor) : Cursor :=
  { c with
    rest := c.rest.drop n
    offset := c.offset + byteCount (c.rest.take n)
    column := c.column + n }

/-- Past the next character. -/
def next (c : Cursor) : Cursor := c.advance 1

/-- Past a line break, to the start of the next line. -/
def nextLine (c : Cursor) : Cursor :=
  match c.rest with
  | '\r' :: '\n' :: rest => ⟨rest, c.offset + 2, c.line + 1, 0⟩
  | x :: rest =>
      if isBreak x then ⟨rest, c.offset + x.utf8Size, c.line + 1, 0⟩
      else c
  | [] => c

/-- What a line break at the place contributes to a scalar. -/
def breakText (c : Cursor) : List Char :=
  match c.rest with
  | x :: _ =>
      if x == '\u2028' || x == '\u2029' then [x]
      else if isBreak x then ['\n'] else []
  | [] => []

/-- The longest run of characters of one kind, and the place after it.
The kind must not contain line breaks. -/
def takeWhile (p : Char → Bool) (c : Cursor) : List Char × Cursor :=
  let run := c.rest.takeWhile p
  (run, c.advance run.length)

/-- Past the longest run of characters of one kind. -/
def skipWhile (p : Char → Bool) (c : Cursor) : Cursor :=
  (c.takeWhile p).2

/-- Past a comment, if one starts here. -/
def skipComment (c : Cursor) : Cursor :=
  if c.sees '#' then c.skipWhile fun x => !isBreak x else c

/-- Past the rest of a line that may hold nothing but a comment. -/
def finishLine? (c : Cursor) : Option Cursor :=
  let c := (c.skipWhile isBlank).skipComment
  if c.atEnd || c.seesAny isBreak then some c.nextLine else none

/-- Whether a mark of document start or end stands here, which it does
only at the start of a line. -/
def atDocumentMark (c : Cursor) : Bool :=
  c.column == 0 && (["---", "..."].any fun mark =>
    mark.toList.isPrefixOf c.rest) && c.separatedAfter 3

end Cursor

end SchemaPress.Yaml
