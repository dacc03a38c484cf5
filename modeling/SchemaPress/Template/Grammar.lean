/-
The machinery for reading tags. A grammar reads from the front of a text
and either fails, having read nothing, or succeeds with the rest.
Choices are ordered: the first alternative that succeeds is taken for
good.

# Sound input

Some text has the right form for a literal and still spells no value, a
number with a superfluous zero for instance. That is a fault of the
template, but not one of its form: whether the rest of the template has
the right form matters first. So such a literal is read, and the input is
marked as unsound.
-/

namespace SchemaPress.Template

/-- Text being read. -/
structure Input where
  rest : List Char
  /-- Whether everything read so far spells a value. -/
  sound : Bool

/-- A way to read from the front of a text. -/
abbrev Grammar := StateT Input Option

/-- Whether a character separates the parts of a tag. -/
def isBlank (c : Char) : Bool :=
  c == ' ' || c == '\t' || c == '\n' || c == '\r'

namespace Grammar

/-- The text that is left. -/
def rest : Grammar (List Char) := do return (← get).rest

/-- Goes on with other text. -/
def moveTo (rest : List Char) : Grammar Unit :=
  modify fun input => { input with rest }

/-- How much there is left to read. -/
def fuel : Grammar Nat := do return (← rest).length + 1

/-- Skips blanks. -/
def blanks : Grammar Unit := do moveTo ((← rest).dropWhile isBlank)

/-- Reads exactly the given text. -/
def exactly (text : String) : Grammar Unit := do
  let left ← rest
  if text.toList.isPrefixOf left then moveTo (left.drop text.length)
  else failure

/-- Reads the given text, blanks in front of it skipped. -/
def sign (text : String) : Grammar Unit := do
  blanks
  exactly text

/-- Succeeds when a grammar would fail, and reads nothing. -/
def refuse (g : Grammar Unit) : Grammar Unit := fun input =>
  match StateT.run g input with
  | some _ => none
  | none => some ((), input)

/-- Reads something that may be missing. -/
def maybe {α : Type} (g : Grammar α) : Grammar (Option α) :=
  (some <$> g) <|> pure none

/-- Reads something that may be missing; says whether it was there. -/
def present (g : Grammar Unit) : Grammar Bool :=
  (g *> pure true) <|> pure false

/-- Reads a character of one kind. -/
def char (p : Char → Bool) : Grammar Char := do
  match ← rest with
  | c :: left =>
      if p c then
        moveTo left
        return c
      else failure
  | [] => failure

/-- Reads as many characters of one kind as there are. -/
def run (p : Char → Bool) : Grammar (List Char) := do
  let left ← rest
  let word := left.takeWhile p
  moveTo (left.drop word.length)
  return word

/-- Reads at least one character of one kind. -/
def word (p : Char → Bool) : Grammar (List Char) := do
  let text ← run p
  if text.isEmpty then failure else return text

/-- Fails if a character of one kind comes next. -/
def notBefore (p : Char → Bool) : Grammar Unit := do
  if (← rest).head?.any p then failure

/-- Takes what was spelled; marks the input as unsound if that is
nothing. -/
def settle {α : Type} [Inhabited α] (value : Option α) : Grammar α :=
  match value with
  | some value => return value
  | none => do
      modify fun input => { input with sound := false }
      return default

end Grammar

end SchemaPress.Template
