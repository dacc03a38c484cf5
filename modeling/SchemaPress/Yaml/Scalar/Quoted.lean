/-
Quoted scalars. Between single quotes the only thing to undo is a quote
written twice. Between double quotes a backslash introduces an escape: a
letter for a control or spacing character, a fixed number of hexadecimal
digits for any character, or a line break that is to leave no trace.

White space folds as in any other scalar (`Gap`), with one difference
from plain text: it belongs to the scalar even at its ends.
-/
import SchemaPress.Yaml.Scalar.Gap

namespace SchemaPress.Yaml.Quoted

-- ============================================================ escapes

/-- The character that a one-letter escape stands for. -/
def letterEscape? : Char → Option Char
  | '0' => some '\x00'
  | 'a' => some '\x07'
  | 'b' => some '\x08'
  | 't' => some '\t'
  | '\t' => some '\t'
  | 'n' => some '\n'
  | 'v' => some '\x0b'
  | 'f' => some '\x0c'
  | 'r' => some '\r'
  | 'e' => some '\x1b'
  | ' ' => some ' '
  | '"' => some '"'
  | '/' => some '/'
  | '\\' => some '\\'
  | 'N' => some '\x85'
  | '_' => some '\xa0'
  | 'L' => some '\u2028'
  | 'P' => some '\u2029'
  | _ => none

/-- How many hexadecimal digits follow the letter of a numeric escape. -/
def numericEscape? : Char → Option Nat
  | 'x' => some 2
  | 'u' => some 4
  | 'U' => some 8
  | _ => none

/-- The character with a number. Halves of surrogate pairs and numbers
beyond the last character have none. -/
def charOf? (n : Nat) : Option Char :=
  if n.isValidChar then some (Char.ofNat n) else none

/-- Reads the digits of a numeric escape. -/
def numeric? (digits : List Char) (count : Nat) : Option Char := do
  let digits := digits.take count
  if digits.length < count then none
  let values ← digits.mapM hexValue?
  charOf? (values.foldl (fun n d => n * 16 + d) 0)

/-- Reads an escape from behind its backslash: the character, and how
many characters spell it. -/
def escape? : List Char → Option (Char × Nat)
  | [] => none
  | c :: rest =>
      match letterEscape? c, numericEscape? c with
      | some x, _ => some (x, 1)
      | none, some count => (numeric? rest count).map (·, count + 1)
      | none, none => none

-- ============================================================== words

/-- Why a word inside quotes ends. -/
inductive Stop where
  | space
  | escapedBreak
  | quote

/-- Reads one word: its text, why it ends, and the place there. The text
of a scalar must end with its quote, not with the stream. -/
def word? (double : Bool) :
    Nat → List Char → Cursor → Option (List Char × Stop × Cursor)
  | 0, _, _ => none
  | fuel + 1, text, c =>
      match c.rest with
      | [] => none
      | x :: rest =>
          if isSpace x then some (text, .space, c)
          else if !double && x == '\'' && rest.head? == some '\'' then
            word? double fuel (text ++ ['\'']) (c.advance 2)
          else if x == (if double then '"' else '\'') then
            some (text, .quote, c.next)
          else if double && x == '\\' then
            if rest.head?.any isBreak then
              some (text, .escapedBreak, c.next.nextLine)
            else
              match escape? rest with
              | some (y, n) =>
                  word? double fuel (text ++ [y]) (c.advance (n + 1))
              | none => none
          else word? double fuel (text ++ [x]) c.next

/-- Reads on to the closing quote; the place is behind the opening
one. -/
def scan? (double : Bool) :
    Nat → List Char → Cursor → Option (List Char × Cursor)
  | 0, _, _ => none
  | fuel + 1, text, c =>
      if c.atDocumentMark then none
      else do
        let size := c.rest.length + 1
        let (word, stop, c) ← word? double size [] c
        let text := text ++ word
        match stop with
        | .quote => return (text, c)
        | .space =>
            let (gap, c) ← Gap.scan? 0 size Gap.none c
            scan? double fuel (text ++ gap.text) c
        | .escapedBreak =>
            let (gap, c) ← Gap.scan? 0 size Gap.escapedBreak c
            scan? double fuel (text ++ gap.text) c

end SchemaPress.Yaml.Quoted
