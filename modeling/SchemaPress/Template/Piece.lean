/-
The pieces of a template's source: stretches of text and the tags
between them.

# Text

Text ends where two opening braces start a tag. A single backslash in
front of them takes that meaning away: the braces are text, and the
backslash is not written. Of several backslashes one is not written, and
the braces keep their meaning.

A stretch of text is kept twice, as it stands and as it is written,
because what counts as a line of its own (`Layout`) is decided by how the
source looks.

# Plain text

Behind the start of a block of plain text, only four opening braces end
the text.
-/
import SchemaPress.Template.Tag

namespace SchemaPress.Template

/-- A stretch of text. -/
structure Stretch where
  /-- The text as it stands. -/
  source : List Char
  /-- The text as it is written, without the backslashes that only mark
  braces. -/
  written : List Char

namespace Stretch

/-- No text. -/
def empty : Stretch := ⟨[], []⟩

/-- Puts text in front that is written as it stands. -/
def cons (text : List Char) (s : Stretch) : Stretch :=
  ⟨text ++ s.source, text ++ s.written⟩

/-- Puts a character in front that is not written. -/
def mark (c : Char) (s : Stretch) : Stretch :=
  { s with source := c :: s.source }

/-- Splits off the text in front of the next tag. `slashes` counts the
backslashes right before; in plain text only four braces start a tag. -/
def split (plain : Bool) (slashes : Nat) :
    List Char → Stretch × List Char
  | '{' :: '{' :: '{' :: '{' :: rest =>
      if slashes = 1 then
        let (s, after) := split plain 0 rest
        (s.cons ['{', '{', '{', '{'], after)
      else (empty, '{' :: '{' :: '{' :: '{' :: rest)
  | '{' :: '{' :: rest =>
      if slashes = 1 then
        let (s, after) := split plain 0 rest
        (s.cons ['{', '{'], after)
      else if plain then
        let (s, after) := split plain 0 ('{' :: rest)
        (s.cons ['{'], after)
      else (empty, '{' :: '{' :: rest)
  | '\\' :: rest =>
      let (s, after) := split plain (slashes + 1) rest
      if ['{', '{'].isPrefixOf rest then (s.mark '\\', after)
      else (s.cons ['\\'], after)
  | c :: rest =>
      let (s, after) := split plain 0 rest
      (s.cons [c], after)
  | [] => (empty, [])

end Stretch

/-- A piece of a template's source. -/
inductive Piece where
  | text (stretch : Stretch)
  /-- The content of a block of plain text. -/
  | plain (stretch : Stretch)
  | tag (markup : Markup)

namespace Piece

/-- The text of a block of plain text. Blanks at its start are not
written. -/
def plainText (stretch : Stretch) : Piece :=
  .plain { stretch with written := stretch.written.dropWhile isBlank }

/-- Text is a piece unless there is none. -/
def textOf (stretch : Stretch) : List Piece :=
  if stretch.source.isEmpty then [] else [.text stretch]

/-- Cuts the source of a template into pieces; nothing if a tag cannot be
read. -/
def split? : Nat → List Char → Option (List Piece)
  | 0, _ => none
  | fuel + 1, source => do
      let (stretch, rest) := Stretch.split false 0 source
      if rest.isEmpty then return textOf stretch
      let (markup, rest) ← Tag.read? Tag.any rest
      match markup.tag with
      | .rawStart _ _ _ =>
          let (inside, rest) := Stretch.split true 0 rest
          let (ending, rest) ← Tag.read? Tag.rawClosing rest
          let more ← split? fuel rest
          return textOf stretch
            ++ .tag markup :: plainText inside :: .tag ending :: more
      | _ =>
          let more ← split? fuel rest
          return textOf stretch ++ .tag markup :: more

/-- The pieces of a template's source. -/
def ofSource? (source : String) : Option (List Piece) :=
  split? (source.length + 1) source.toList

end Piece

end SchemaPress.Template
