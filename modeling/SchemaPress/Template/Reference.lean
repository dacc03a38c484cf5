/-
References: how a template names a value. A reference starts somewhere
and walks down from there, name by name.

* Without a mark it starts at the value of the innermost block, and each
  `../` in front moves the start one block outward.
* With `@root/` it starts at the data that the template is rendered with.
* With `@` it names a local variable of a block, again with `../` for the
  blocks further out.

The word `this` stands for the place reached so far, so it drops out
wherever it occurs. The spelling of a reference is kept: a lone name may
turn out to be that of a helper.
-/

namespace SchemaPress.Template

/-- A name for a value. -/
structure Reference where
  /-- How the reference is spelled. -/
  spelling : String
  /-- Whether it starts at the root. -/
  fromRoot : Bool
  /-- Whether it names a local variable. -/
  isLocal : Bool
  /-- How many blocks it steps outward first. -/
  ups : Nat
  /-- The names it walks down. -/
  names : List String
  deriving DecidableEq, Repr

/-- Whether a character may stand in a name. -/
def isNameChar (c : Char) : Bool :=
  c.isAlphanum || c == '_' || c == '-' || c == '$' || c == ':'
    || '\x80' ≤ c

namespace Reference

/-- Whether a character separates names. -/
def isSeparator (c : Char) : Bool := c == '.' || c == '/'

/-- The rest behind a word with a separator after it. -/
def behind? (word : List Char) (text : List Char) : Option (List Char) :=
  if word.isPrefixOf text then
    match text.drop word.length with
    | c :: rest => if isSeparator c then some rest else none
    | [] => none
  else none

/-- Drops a word that stands for the place reached so far. -/
def dropHere (text : List Char) : List Char :=
  match behind? "this".toList text, text with
  | some rest, _ => rest
  | none, '.' :: '/' :: rest => rest
  | none, _ => text

/-- Reads steps outward. -/
def takeUps : List Char → Nat × List Char
  | '.' :: '.' :: c :: rest =>
      if isSeparator c then
        let (n, rest) := takeUps rest
        (n + 1, rest)
      else (0, '.' :: '.' :: c :: rest)
  | text => (0, text)

/-- Reads a name, or any text between square brackets. -/
def name? : List Char → Option (List Char × List Char)
  | '[' :: rest =>
      match rest.dropWhile (· != ']') with
      | _ :: after => some (rest.takeWhile (· != ']'), after)
      | [] => none
  | text =>
      let name := text.takeWhile isNameChar
      if name.isEmpty then none else some (name, text.drop name.length)

/-- Reads names with separators between them. -/
def names? : Nat → List Char → Option (List (List Char) × List Char)
  | 0, _ => none
  | fuel + 1, text => do
      let (name, rest) ← name? text
      match rest with
      | c :: more =>
          if isSeparator c then
            match names? fuel more with
            | some (names, after) => return (name :: names, after)
            | none => return ([name], rest)
          else return ([name], rest)
      | [] => return ([name], [])

/-- Reads a reference: it, and the text behind. -/
def ofChars? (text : List Char) : Option (Reference × List Char) := do
  let rest := dropHere text
  let (fromRoot, rest) := match behind? "@root".toList rest with
    | some rest => (true, rest)
    | none => (false, rest)
  let (isLocal, rest) := match rest with
    | '@' :: rest => (true, rest)
    | rest => (false, rest)
  let (ups, rest) := takeUps rest
  let (names, after) ← names? (rest.length + 1) rest
  let spelling := text.take (text.length - after.length)
  let names := (names.map String.ofList).filter (· != "this")
  return (⟨String.ofList spelling, fromRoot, isLocal, ups, names⟩, after)

end Reference

end SchemaPress.Template
