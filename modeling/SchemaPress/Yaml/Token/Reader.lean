/-
Reading tokens.

# Indentation

The columns of the open block collections form a stack. Text that starts
left of the innermost one closes it, and a dash, question mark or colon
that starts right of it opens a new one. Inside brackets indentation
means nothing.

# Keys without a mark

That a word is the key of a mapping shows only at the colon behind it. So
wherever a key may start, the place is remembered, one for each level of
brackets; when the colon comes, the key token goes in at the remembered
place. A remembered key lapses with its line and after 1024 bytes.
Where the layout demands a key, because the text starts in the column of
an open block mapping, lapsing is an error.

# Progress

Each step either reads at least one character or ends the stream, so the
number of characters bounds the number of steps.
-/
import SchemaPress.Yaml.Scalar.Plain
import SchemaPress.Yaml.Scalar.Quoted
import SchemaPress.Yaml.Scalar.Block
import SchemaPress.Yaml.Token.Tag

namespace SchemaPress.Yaml

/-- A place where a key may have started. -/
structure PossibleKey where
  /-- How many tokens come before it. -/
  position : Nat
  /-- Whether the layout demands a key here. -/
  required : Bool
  offset : Nat
  line : Nat
  column : Nat

/-- A stream being read. -/
structure Lexer where
  cursor : Cursor
  /-- The column of the innermost block collection, -1 outside all. -/
  indent : Int
  /-- The columns of the block collections around it. -/
  outer : List Int
  /-- The possible keys: of the innermost brackets first, of the block
  level last. -/
  keys : List (Option PossibleKey)
  /-- Whether a key may start here. -/
  keyAllowed : Bool
  /-- The tokens read so far, the latest first. -/
  reversed : List Token
  /-- How many tokens have been read. -/
  count : Nat

namespace Lexer

/-- The start of a stream. -/
def start (text : List Char) : Lexer :=
  ⟨.start text, -1, [], [none], true, [], 0⟩

/-- Whether brackets are open. -/
def inFlow (l : Lexer) : Bool := 1 < l.keys.length

/-- Adds a token at the end. -/
def push (t : Token) (l : Lexer) : Lexer :=
  { l with reversed := t :: l.reversed, count := l.count + 1 }

/-- Puts a token in behind the first `position` ones. -/
def insertAt (position : Nat) (t : Token) (l : Lexer) : Lexer :=
  let later := l.count - position
  { l with
    reversed := l.reversed.take later ++ t :: l.reversed.drop later
    count := l.count + 1 }

/-- Moves to a place. -/
def moveTo (c : Cursor) (l : Lexer) : Lexer := { l with cursor := c }

/-- Says whether a key may start next. -/
def allowKey (allowed : Bool) (l : Lexer) : Lexer :=
  { l with keyAllowed := allowed }

-- ======================================================== indentation

/-- Closes the block collections right of a column. -/
def closeTo (column : Int) (l : Lexer) : Lexer :=
  if l.inFlow then l
  else
    let closed := (l.indent :: l.outer).takeWhile (column < ·)
    let left := (l.indent :: l.outer).dropWhile (column < ·)
    let l := closed.foldl (fun l _ => l.push .blockEnd) l
    { l with indent := left.headD (-1), outer := left.drop 1 }

/-- Opens a block collection at a column, unless one is open there. -/
def openAt (column position : Nat) (t : Token) (l : Lexer) : Lexer :=
  if l.inFlow || (column : Int) ≤ l.indent then l
  else
    { l.insertAt position t with
      indent := column
      outer := l.indent :: l.outer }

/-- Opens a block collection here. -/
def openHere (t : Token) (l : Lexer) : Lexer :=
  l.openAt l.cursor.column l.count t

-- ====================================================== possible keys

/-- Forgets the possible key of this level; a required one must not be
forgotten. -/
def dropKey? (l : Lexer) : Option Lexer :=
  match l.keys with
  | some key :: rest =>
      if key.required then none else some { l with keys := none :: rest }
  | _ => some l

/-- Remembers that a key may start here. -/
def saveKey? (l : Lexer) : Option Lexer :=
  if l.keyAllowed then do
    let l ← l.dropKey?
    let c := l.cursor
    let key : PossibleKey :=
      { position := l.count
        required := !l.inFlow && l.indent == (c.column : Int)
        offset := c.offset
        line := c.line
        column := c.column }
    return { l with keys := some key :: l.keys.drop 1 }
  else some l

/-- Whether a possible key has lapsed. -/
def lapsed (l : Lexer) (key : PossibleKey) : Bool :=
  key.line < l.cursor.line || key.offset + 1024 < l.cursor.offset

/-- Forgets the possible keys that have lapsed. -/
def dropLapsed? (l : Lexer) : Option Lexer := do
  let keys ← l.keys.mapM fun possible =>
    match possible with
    | some key =>
        if l.lapsed key then
          if key.required then none else some none
        else some (some key)
    | none => some none
  return { l with keys }

-- ============================================================= tokens

/-- Moves to the next token: past blanks, comments and line breaks. A
mark of byte order may start a line and takes up a column of it. A tab
separates unless a key may start here outside brackets. -/
def toNextToken : Nat → Lexer → Lexer
  | 0, l => l
  | fuel + 1, l =>
      let c := l.cursor
      let c := if c.column == 0 && c.sees '\ufeff' then c.next else c
      let c := c.skipWhile fun x =>
        x == ' ' || (x == '\t' && (l.inFlow || !l.keyAllowed))
      let c := c.skipComment
      if c.seesAny isBreak then
        toNextToken fuel
          { l with
            cursor := c.nextLine
            keyAllowed := l.keyAllowed || !l.inFlow }
      else l.moveTo c

/-- A mark of document start or end. -/
def documentMark? (t : Token) (l : Lexer) : Option Lexer := do
  let l ← (l.closeTo (-1)).dropKey?
  return ((l.push t).moveTo (l.cursor.advance 3)).allowKey false

/-- A directive. -/
def directive? (l : Lexer) : Option Lexer := do
  let l ← (l.closeTo (-1)).dropKey?
  let (t, c) ← Tag.directive? l.cursor
  return ((l.push t).moveTo c).allowKey false

/-- An opening bracket. It may start a key itself. -/
def openBracket? (t : Token) (l : Lexer) : Option Lexer := do
  let l ← l.saveKey?
  let l := { l with keys := none :: l.keys }
  return ((l.push t).moveTo l.cursor.next).allowKey true

/-- A closing bracket. -/
def closeBracket? (t : Token) (l : Lexer) : Option Lexer := do
  let l ← l.dropKey?
  let l := if l.inFlow then { l with keys := l.keys.drop 1 } else l
  return ((l.push t).moveTo l.cursor.next).allowKey false

/-- A comma inside brackets. -/
def comma? (l : Lexer) : Option Lexer := do
  let l ← l.dropKey?
  return ((l.push .flowEntry).moveTo l.cursor.next).allowKey true

/-- The dash of a block sequence. -/
def dash? (l : Lexer) : Option Lexer := do
  if !l.inFlow && !l.keyAllowed then none
  let l ← (l.openHere .blockSequenceStart).dropKey?
  return ((l.push .blockEntry).moveTo l.cursor.next).allowKey true

/-- The question mark of a key. -/
def questionMark? (l : Lexer) : Option Lexer := do
  if !l.inFlow && !l.keyAllowed then none
  let l ← (l.openHere .blockMappingStart).dropKey?
  return ((l.push .key).moveTo l.cursor.next).allowKey !l.inFlow

/-- The colon of a value. It settles a possible key of this level. -/
def colon? (l : Lexer) : Option Lexer :=
  match l.keys with
  | some key :: rest =>
      let l := l.insertAt key.position .key
      let l := l.openAt key.column key.position .blockMappingStart
      let l := { l with keys := none :: rest }
      some (((l.push .value).moveTo l.cursor.next).allowKey false)
  | _ => do
      if !l.inFlow && !l.keyAllowed then none
      let l := l.openHere .blockMappingStart
      return ((l.push .value).moveTo l.cursor.next).allowKey !l.inFlow

/-- An anchor or an alias: a word that something that cannot be part of
a word must follow. -/
def reference? (make : String → Token) (l : Lexer) : Option Lexer := do
  let l ← l.saveKey?
  let (name, c) := l.cursor.next.takeWhile isWord
  let ends := c.separatedAfter 0
    || c.seesAny ['?', ':', ',', ']', '\x7d', '%', '@', '\x60'].contains
  if name.isEmpty || !ends then none
  return ((l.push (make (String.ofList name))).moveTo c).allowKey false

/-- A tag. -/
def tag? (l : Lexer) : Option Lexer := do
  let l ← l.saveKey?
  let (t, c) ← Tag.scan? l.inFlow l.cursor
  return ((l.push t).moveTo c).allowKey false

/-- A block scalar. -/
def blockScalar? (folded : Bool) (l : Lexer) : Option Lexer := do
  let l ← l.dropKey?
  let outer := if l.indent < 0 then none else some l.indent.toNat
  let (text, c) ← Block.scan? folded outer l.cursor.next
  let t := Token.scalar (String.ofList text) false
  return ((l.push t).moveTo c).allowKey true

/-- A quoted scalar. -/
def quotedScalar? (double : Bool) (l : Lexer) : Option Lexer := do
  let l ← l.saveKey?
  let c := l.cursor.next
  let (text, c) ← Quoted.scan? double (c.rest.length + 1) [] c
  let t := Token.scalar (String.ofList text) false
  return ((l.push t).moveTo c).allowKey false

/-- A plain scalar. A key may follow it when white space after it
crosses a line. -/
def plainScalar? (l : Lexer) : Option Lexer := do
  let l ← l.saveKey?
  let c := l.cursor
  let margin := (l.indent + 1).toNat
  let r ← Plain.scan? l.inFlow margin (c.rest.length + 1) [] Gap.none c
  let t := Token.scalar (String.ofList r.text) true
  return ((l.push t).moveTo r.after).allowKey r.broken

/-- Whether a plain scalar starts here. -/
def startsPlain (l : Lexer) (x : Char) : Bool :=
  let c := l.cursor
  !(isSpace x || ['-', '?', ':', ',', '[', ']', '\x7b', '\x7d', '#', '&',
      '*', '!', '|', '>', '\'', '"', '%', '@', '\x60'].contains x)
    || (x == '-' && !(c.rest[1]?.any isBlank))
    || (!l.inFlow && (x == '?' || x == ':') && !c.separatedAfter 1)

/-- Reads the token that starts with `x`. -/
def token? (x : Char) (l : Lexer) : Option Lexer :=
  let c := l.cursor
  let separated := c.separatedAfter 1
  if c.column == 0 && x == '%' then l.directive?
  else if c.atDocumentMark then
    l.documentMark? (if x == '-' then .documentStart else .documentEnd)
  else if x == '[' then l.openBracket? .flowSequenceStart
  else if x == '\x7b' then l.openBracket? .flowMappingStart
  else if x == ']' then l.closeBracket? .flowSequenceEnd
  else if x == '\x7d' then l.closeBracket? .flowMappingEnd
  else if x == ',' then l.comma?
  else if x == '-' && separated then l.dash?
  else if x == '?' && (l.inFlow || separated) then l.questionMark?
  else if x == ':' && (l.inFlow || separated) then l.colon?
  else if x == '*' then l.reference? .alias
  else if x == '&' then l.reference? .anchor
  else if x == '!' then l.tag?
  else if x == '|' && !l.inFlow then l.blockScalar? false
  else if x == '>' && !l.inFlow then l.blockScalar? true
  else if x == '\'' then l.quotedScalar? false
  else if x == '"' then l.quotedScalar? true
  else if l.startsPlain x then l.plainScalar?
  else none

/-- Ends the stream: every block collection closes, and no key may be
left open. -/
def finish? (l : Lexer) : Option (List Token) := do
  let l ← (l.closeTo (-1)).dropKey?
  return l.reversed.reverse

/-- Reads the tokens that are left. -/
def run? : Nat → Lexer → Option (List Token)
  | 0, _ => none
  | fuel + 1, l => do
      let l := l.toNextToken (l.cursor.rest.length + 1)
      let l ← l.dropLapsed?
      let l := l.closeTo l.cursor.column
      match l.cursor.peek? with
      | none => l.finish?
      | some x => run? fuel (← l.token? x)

end Lexer

/-- The tokens of a text; nothing when the text breaks the rules of the
layout. -/
def Token.ofText? (text : String) : Option (List Token) :=
  let chars := text.toList
  if chars.all isAllowed then
    (Lexer.start chars).run? (chars.length + 2)
  else none

end SchemaPress.Yaml
