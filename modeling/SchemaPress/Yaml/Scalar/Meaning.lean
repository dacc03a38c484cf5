/-
What scalars mean. A plain scalar is nothing, a truth value, a number or
text, tried in this order; a quoted or block scalar is text. A tag of the
language itself overrides that, and fails when the text does not fit.

# Whole numbers

Decimal digits, or digits behind `0x`, `0o`, `0b`, with an optional sign.
Decimal digits that start with a superfluous zero are not a number at
all but text, as in a postal code. A whole number must fit 64 bits; one
that fits 128 bits is refused rather than rounded, and beyond that the
text is read as a double.

# Doubles

A decimal, or the three spellings of infinity and of the value that is
no number. A decimal too large for a double is text.
-/
import SchemaPress.Yaml.Node
import SchemaPress.Yaml.Token
import SchemaPress.Decimal.Reader

namespace SchemaPress.Yaml.Scalar

/-- Reads digits of a base, at least one. -/
def digits? (base : Nat) (digits : List Char) : Option Nat := do
  if digits.isEmpty then none
  let values ← digits.mapM fun c => do
    let d ← hexDigit? c
    if d < base then some d else none
  return values.foldl (fun n d => n * base + d) 0
where
  hexDigit? (c : Char) : Option Nat :=
    if c.isDigit then some (c.toNat - '0'.toNat)
    else if 'a' ≤ c ∧ c ≤ 'f' then some (c.toNat - 'a'.toNat + 10)
    else if 'A' ≤ c ∧ c ≤ 'F' then some (c.toNat - 'A'.toNat + 10)
    else none

/-- Reads digits behind the mark of a base. -/
def marked? : List Char → Option Nat
  | '0' :: 'x' :: rest => digits? 16 rest
  | '0' :: 'o' :: rest => digits? 8 rest
  | '0' :: 'b' :: rest => digits? 2 rest
  | _ => none

/-- Whether decimal digits start with a superfluous zero. -/
def hasSuperfluousZero (text : List Char) : Bool :=
  match text with
  | '+' :: rest | '-' :: rest => check rest
  | rest => check rest
where
  check : List Char → Bool
    | '0' :: d :: rest => (d :: rest).all Char.isDigit
    | _ => false

/-- Reads a whole number that is written without a minus sign. -/
def natural? (text : List Char) : Option Nat :=
  let unsigned := match text with
    | '+' :: rest => rest
    | rest => rest
  match marked? unsigned with
  | some n => some n
  | none =>
      if hasSuperfluousZero text then none else digits? 10 unsigned

/-- Reads the magnitude of a whole number that is written with a minus
sign. -/
def negated? : List Char → Option Nat
  | '-' :: rest =>
      match marked? rest with
      | some n => some n
      | none =>
          if hasSuperfluousZero rest then none else digits? 10 rest
  | _ => none

/-- What a text is as a whole number: no number, one that fits, or one
that does not. -/
inductive Whole where
  | absent
  | fits (value : Int)
  | refused

/-- Reads a whole number. -/
def whole (text : List Char) : Whole :=
  match natural? text, negated? text with
  | some n, _ =>
      if n < Nat.pow 2 64 then .fits n
      else if n < Nat.pow 2 128 then .refused else .absent
  | none, some n =>
      if n ≤ Nat.pow 2 63 then .fits (-(n : Int))
      else if n ≤ Nat.pow 2 127 then .refused else .absent
  | none, none => .absent

/-- Reads a truth value. -/
def bool? (text : String) : Option Bool :=
  if ["true", "True", "TRUE"].contains text then some true
  else if ["false", "False", "FALSE"].contains text then some false
  else none

/-- Whether a text spells the absence of a value. -/
def isNull (text : String) : Bool :=
  ["null", "Null", "NULL", "~"].contains text

/-- Reads a double. -/
def real? (text : String) : Option Float :=
  if [".inf", ".Inf", ".INF", "+.inf", "+.Inf", "+.INF"].contains text then
    some (1.0 / 0.0)
  else if ["-.inf", "-.Inf", "-.INF"].contains text then
    some (-1.0 / 0.0)
  else if [".nan", ".NaN", ".NAN"].contains text then some (0.0 / 0.0)
  else
    match Decimal.floatOfChars? text.toList with
    | some x => if x.isFinite then some x else none
    | none => none

/-- The meaning of a plain scalar; nothing for a number that is
refused. -/
def plain? (text : String) : Option Node :=
  if text.isEmpty || isNull text then some .null
  else
    match bool? text, whole text.toList with
    | some b, _ => some (.bool b)
    | none, .fits n => some (.number (.whole n))
    | none, .refused => none
    | none, .absent =>
        if hasSuperfluousZero text.toList then some (.string text)
        else
          match real? text with
          | some x => some (.number (.real x))
          | none => some (.string text)

/-- A tag of the language, by its name. -/
def standardTag (name : String) : List UInt8 :=
  bytesOf ("tag:yaml.org,2002:" ++ name)

/-- Whether a byte is the mark of the tags that the language leaves to
others. -/
def isMark (byte : UInt8) : Bool := bytesOf "!" == [byte]

/-- The meaning of a scalar without regard to tags. -/
def untagged? (text : String) (plain : Bool) : Option Node :=
  if plain then plain? text else some (.string text)

/-- The meaning of a scalar with a tag of the language; text under any
other tag, unless the language leaves it to others. -/
def tagged? (tag : List UInt8) (text : String) (plain : Bool) :
    Option Node :=
  if tag = standardTag "bool" then (bool? text).map .bool
  else if tag = standardTag "int" then
    match whole text.toList with
    | .fits n => some (.number (.whole n))
    | _ => none
  else if tag = standardTag "float" then
    (real? text).map fun x => .number (.real x)
  else if tag = standardTag "null" then
    if isNull text then some .null else none
  else if tag.head?.any isMark then untagged? text plain
  else some (.string text)

end SchemaPress.Yaml.Scalar
