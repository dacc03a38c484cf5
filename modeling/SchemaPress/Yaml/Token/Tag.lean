/-
Tags and directives as they are spelled.

A tag is written in full between angle brackets, or as a handle and a
suffix. A handle is `!`, `!!`, or a word between two exclamation marks;
what it stands for is settled later, by the directives of the document.
Text that starts like a handle and has no second exclamation mark is the
suffix of the handle `!`, and the lone `!` is a suffix without a handle.

# Bytes

A percent sign and two digits stand for a byte, as many of them in a row
as the first one announces. That the bytes have the form of a character
is checked; that there is such a character is not. A byte of zero ends a
tag, or the stem of a handle, whatever follows.
-/
import SchemaPress.Yaml.Cursor
import SchemaPress.Yaml.Token

namespace SchemaPress.Yaml.Tag

/-- Whether a character may stand in a tag. Commas and square brackets
may only do so in a tag that is written in full. -/
def isTagChar (full : Bool) (c : Char) : Bool :=
  isWord c || [';', '/', '?', ':', '@', '&', '=', '+', '$', '.', '!',
    '~', '*', '\'', '(', ')'].contains c
    || (full && [',', '[', ']'].contains c)

/-- Reads one byte written as a percent sign and two digits. -/
def byte? : List Char → Option UInt8
  | '%' :: a :: b :: _ => do
      return (UInt8.ofNat ((← hexValue? a) * 16 + (← hexValue? b)))
  | _ => none

/-- How many bytes spell the character that starts with `byte`. -/
def width? (byte : UInt8) : Option Nat :=
  if byte < 0x80 then some 1
  else if byte &&& 0xe0 == 0xc0 then some 2
  else if byte &&& 0xf0 == 0xe0 then some 3
  else if byte &&& 0xf8 == 0xf0 then some 4
  else none

/-- Whether a byte goes on with a character that others started. -/
def isTrailing (byte : UInt8) : Bool := byte &&& 0xc0 == 0x80

/-- Reads as many bytes as the first of them announces. -/
def escaped? (c : Cursor) : Option (List UInt8 × Cursor) := do
  let first ← byte? c.rest
  let width ← width? first
  let more ← (List.range (width - 1)).mapM fun i =>
    byte? (c.rest.drop (3 * (i + 1)))
  if more.all isTrailing then
    return (first :: more, c.advance (3 * width))
  else none

/-- Reads the characters of a tag. -/
def uri? (full : Bool) :
    Nat → List UInt8 → Cursor → Option (List UInt8 × Cursor)
  | 0, bytes, c => some (bytes, c)
  | fuel + 1, bytes, c =>
      match c.peek? with
      | some '%' => do
          let (part, c) ← escaped? c
          uri? full fuel (bytes ++ part) c
      | some x =>
          if isTagChar full x then
            uri? full fuel (bytes ++ [UInt8.ofNat x.toNat]) c.next
          else some (bytes, c)
      | none => some (bytes, c)

/-- A tag as far as it counts: a byte of zero ends it. -/
def cut (bytes : List UInt8) : List UInt8 := bytes.takeWhile (· != 0)

/-- Reads the characters of a tag, of which there must be one. -/
def nonEmptyUri? (full : Bool) (c : Cursor) :
    Option (List UInt8 × Cursor) := do
  let (bytes, after) ← uri? full (c.rest.length + 1) [] c
  if bytes.isEmpty then none else return (cut bytes, after)

/-- Reads an exclamation mark, a word, and a second exclamation mark if
there is one. -/
def handle? (c : Cursor) : Option (String × Cursor) :=
  if c.sees '!' then
    let (word, c) := c.next.takeWhile isWord
    if c.sees '!' then
      some (String.ofList ('!' :: word ++ ['!']), c.next)
    else some (String.ofList ('!' :: word), c)
  else none

/-- Whether a handle has both its exclamation marks. -/
def isClosed (handle : String) : Bool :=
  1 < handle.length && handle.toList.getLast? == some '!'

/-- Reads a tag. -/
def scan? (flow : Bool) (c : Cursor) : Option (Token × Cursor) := do
  let (tag, c) ←
    if c.rest[1]? = some '<' then do
      let (bytes, c) ← nonEmptyUri? true (c.advance 2)
      if c.sees '>' then some (Token.tag "" bytes, c.next) else none
    else do
      let (handle, c) ← handle? c
      if isClosed handle then
        let (suffix, c) ← nonEmptyUri? false c
        some (Token.tag handle suffix, c)
      else
        let (more, c) ← uri? false (c.rest.length + 1) [] c
        let suffix := (bytesOf handle).drop 1 ++ cut more
        if suffix.isEmpty then some (Token.tag "" (bytesOf "!"), c)
        else some (Token.tag "!" suffix, c)
  if (flow && c.sees ',') || c.separatedAfter 0 then return (tag, c)
  else none

-- ========================================================= directives

/-- Reads a number of at most nine digits. -/
def number? (c : Cursor) : Option (Nat × Cursor) :=
  let (digits, c) := c.takeWhile Char.isDigit
  if digits.isEmpty || 9 < digits.length then none
  else
    let value := digits.foldl (fun n d => n * 10 + (d.toNat - 48)) 0
    some (value, c)

/-- Reads the rest of a version directive. -/
def version? (c : Cursor) : Option (Token × Cursor) := do
  let (major, c) ← number? (c.skipWhile isBlank)
  if c.sees '.' then
    let (minor, c) ← number? c.next
    return (.version major minor, c)
  else none

/-- Reads the rest of a directive that gives a handle its meaning. -/
def meaning? (c : Cursor) : Option (Token × Cursor) := do
  let (handle, c) ← handle? (c.skipWhile isBlank)
  if !(handle == "!" || isClosed handle) || !c.seesAny isBlank then none
  let (stem, c) ← nonEmptyUri? true (c.skipWhile isBlank)
  if c.separatedAfter 0 then return (.tagDirective handle stem, c)
  else none

/-- Reads a directive up to the end of its line. -/
def directive? (c : Cursor) : Option (Token × Cursor) := do
  let (name, c) := c.next.takeWhile isWord
  if name.isEmpty || !c.separatedAfter 0 then none
  let (token, c) ←
    if name = "YAML".toList then version? c
    else if name = "TAG".toList then meaning? c
    else none
  return (token, ← c.finishLine?)

end SchemaPress.Yaml.Tag
