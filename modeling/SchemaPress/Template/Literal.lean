/-
Literals: JSON values inside a tag. A literal follows the rules of JSON,
with two exceptions: a string that is not part of a larger value may be
written in single quotes, and an exponent is marked by a capital letter.
Text that has the form of a literal but breaks a finer rule of JSON is
unsound (`Grammar.settle`), and so are arrays and objects that stand too
deep inside each other.
-/
import SchemaPress.Json.Numeral
import SchemaPress.Template.Grammar
import SchemaPress.Template.Reference

namespace SchemaPress.Template.Literal

open Grammar

-- ============================================================ strings

/-- The value of a hexadecimal digit. -/
def hexValue? (c : Char) : Option Nat :=
  if c.isDigit then some (c.toNat - '0'.toNat)
  else if 'a' ≤ c ∧ c ≤ 'f' then some (c.toNat - 'a'.toNat + 10)
  else if 'A' ≤ c ∧ c ≤ 'F' then some (c.toNat - 'A'.toNat + 10)
  else none

/-- The value of four hexadecimal digits. -/
def hexValue4? (a b c d : Char) : Option Nat := do
  return (← hexValue? a) * 4096 + (← hexValue? b) * 256
    + (← hexValue? c) * 16 + (← hexValue? d)

/-- The character that a letter behind a backslash stands for, in a
string with the given quotes. -/
def escapedChar? (quote : Char) : Char → Option Char
  | '\\' => some '\\'
  | '/' => some '/'
  | 'b' => some '\x08'
  | 'f' => some '\x0c'
  | 'n' => some '\n'
  | 'r' => some '\r'
  | 't' => some '\t'
  | c => if c = quote then some c else none

/-- A part of a string: a character, or a unit of two bytes that may be
half of one. -/
inductive Part where
  | char (c : Char)
  | unit (n : Nat)

/-- Reads the parts of a string up to its closing quote. Control
characters must be escaped; `none` for one that is not. -/
def parts? (quote : Char) :
    List Char → Option (List (Option Part) × List Char)
  | [] => none
  | '\\' :: 'u' :: a :: b :: c :: d :: rest => do
      let n ← hexValue4? a b c d
      let (parts, rest) ← parts? quote rest
      return (some (.unit n) :: parts, rest)
  | '\\' :: c :: rest => do
      let x ← escapedChar? quote c
      let (parts, rest) ← parts? quote rest
      return (some (.char x) :: parts, rest)
  | c :: rest =>
      if c = quote then some ([], rest)
      else if c = '\\' then none
      else do
        let part := if c.toNat < 0x20 then none else some (Part.char c)
        let (parts, rest) ← parts? quote rest
        return (part :: parts, rest)

/-- Whether a unit is the first half of a character. -/
def isHigh (n : Nat) : Bool := 0xd800 ≤ n && n ≤ 0xdbff

/-- Whether a unit is the second half of a character. -/
def isLow (n : Nat) : Bool := 0xdc00 ≤ n && n ≤ 0xdfff

/-- Joins halves to characters; nothing if one is left over. -/
def join? : List Part → Option (List Char)
  | [] => some []
  | .char c :: rest => (join? rest).map (c :: ·)
  | .unit a :: .unit b :: rest =>
      if isHigh a && isLow b then
        let n := 0x10000 + (a - 0xd800) * 0x400 + (b - 0xdc00)
        (join? rest).map (Char.ofNat n :: ·)
      else if isHigh a || isLow a then none
      else (join? (.unit b :: rest)).map (Char.ofNat a :: ·)
  | .unit a :: rest =>
      if isHigh a || isLow a then none
      else (join? rest).map (Char.ofNat a :: ·)

/-- The text of a string's parts. -/
def text? (parts : List (Option Part)) : Option String := do
  return String.ofList (← join? (← parts.mapM id))

/-- Reads a string behind its opening quote. -/
def body (quote : Char) : Grammar (Option String) := do
  match parts? quote (← rest) with
  | some (parts, after) =>
      moveTo after
      return text? parts
  | none => failure

/-- Reads a string in double quotes. -/
def doubleQuoted : Grammar (Option String) := exactly "\"" *> body '"'

/-- Reads a string in single quotes. -/
def singleQuoted : Grammar (Option String) := exactly "'" *> body '\''

/-- Reads a string; inside a larger value only double quotes spell
one. -/
def string (nested : Bool) : Grammar String := do
  settle (← doubleQuoted <|> do
    let text ← singleQuoted
    return if nested then none else text)

-- ============================================================ numbers

/-- Reads a number. No character of a name may follow. -/
def number : Grammar Json := do
  let negative ← present (exactly "-")
  let whole ← word Char.isDigit
  let point ← present (exactly ".")
  let digits ← run Char.isDigit
  let exponent ← maybe do
    exactly "E"
    let negative ← present (exactly "-")
    let digits ← word Char.isDigit
    let n : Int := Numeral.value digits
    return if negative then -n else n
  notBefore isNameChar
  let fraction := if point then some digits else none
  -- without a point all digits are read before it
  let numeral : Numeral := ⟨negative, whole, fraction, exponent⟩
  settle (numeral.number?.map Json.number)

/-- Reads a word that is a value. No character of a name may follow. -/
def constant (word : String) (value : Json) : Grammar Json := do
  exactly word
  notBefore isNameChar
  return value

-- ============================================================= values

/-- How many arrays and objects may stand inside each other. -/
def nestingLimit : Nat := 127

/-- Lets an array or an object start; `depth` is how many of them it
stands in. -/
def start (depth : Nat) : Grammar Unit :=
  settle (if depth < nestingLimit then some () else none)

mutual

/-- Reads a literal; `depth` is how many arrays and objects it stands
in. -/
def value : (fuel depth : Nat) → Grammar Json
  | 0, _ => failure
  | fuel + 1, depth =>
      (Json.string <$> string (0 < depth))
        <|> array fuel depth
        <|> object fuel depth
        <|> number
        <|> constant "null" .null
        <|> constant "true" (.bool true)
        <|> constant "false" (.bool false)
termination_by structural fuel => fuel

/-- Reads an array. A comma must not come first. -/
def array : (fuel depth : Nat) → Grammar Json
  | 0, _ => failure
  | fuel + 1, depth => do
      exactly "["
      start depth
      let first ← maybe (blanks *> value fuel (depth + 1))
      let more ← items fuel (depth + 1)
      sign "]"
      match first with
      | some x => return .array (x :: more)
      | none => settle (if more.isEmpty then some (.array []) else none)
termination_by structural fuel => fuel

/-- Reads the items of an array behind the first. -/
def items : (fuel depth : Nat) → Grammar (List Json)
  | 0, _ => return []
  | fuel + 1, depth =>
      (do
        sign ","
        blanks
        let x ← value fuel depth
        return x :: (← items fuel depth))
      <|> return []
termination_by structural fuel => fuel

/-- Reads an object. A comma must not come first. -/
def object : (fuel depth : Nat) → Grammar Json
  | 0, _ => failure
  | fuel + 1, depth => do
      exactly "\x7b"
      start depth
      let first ← maybe (field fuel (depth + 1))
      let more ← fields fuel (depth + 1)
      sign "\x7d"
      match first with
      | some x => return .object (Fields.ofList (x :: more))
      | none => settle (if more.isEmpty then some (.object []) else none)
termination_by structural fuel => fuel

/-- Reads a field. -/
def field : (fuel depth : Nat) → Grammar (String × Json)
  | 0, _ => failure
  | fuel + 1, depth => do
      blanks
      let name ← string true
      sign ":"
      blanks
      return (name, ← value fuel depth)
termination_by structural fuel => fuel

/-- Reads the fields of an object behind the first. -/
def fields : (fuel depth : Nat) → Grammar (List (String × Json))
  | 0, _ => return []
  | fuel + 1, depth =>
      (do
        sign ","
        let x ← field fuel depth
        return x :: (← fields fuel depth))
      <|> return []
termination_by structural fuel => fuel

end

/-- Reads a literal from the front of what is left. -/
def read : Grammar Json := do value (2 * (← fuel)) 0

end SchemaPress.Template.Literal
