/-
Reading doubles. A decimal is an optional sign, digits with an optional
point among them or at either end, and an optional power of ten; it must
have at least one digit before the power. The value is the nearest
double, ties to even.

# Keeping the arithmetic small

The power of ten is arbitrary text, so a short input can name a number
whose exact form is enormous. Nothing beyond the range of doubles needs
to be computed: a decimal whose first digit stands above place 400 is
infinite, and one whose first digit stands below place -400 is zero.
-/

namespace SchemaPress.Decimal

/-- `± mantissa · 10 ^ exponent`, as read. -/
structure Literal where
  negative : Bool
  mantissa : Nat
  exponent : Int

/-- Reads a non-empty run of decimal digits. -/
def natOfDigits? (digits : List Char) : Option Nat :=
  if digits.isEmpty || !digits.all Char.isDigit then none
  else some (digits.foldl (fun n c => n * 10 + (c.toNat - '0'.toNat)) 0)

/-- Reads a signed run of decimal digits. -/
def intOfDigits? : List Char → Option Int
  | '-' :: digits => (natOfDigits? digits).map fun n => -(n : Int)
  | '+' :: digits => (natOfDigits? digits).map fun n => (n : Int)
  | digits => (natOfDigits? digits).map fun n => (n : Int)

/-- Reads what follows the sign. -/
def Literal.unsigned? (negative : Bool) (text : List Char) :
    Option Literal := do
  let isPower (c : Char) : Bool := c == 'e' || c == 'E'
  let decimal := text.takeWhile fun c => !isPower c
  let power ← match text.dropWhile fun c => !isPower c with
    | [] => some 0
    | _ :: digits => intOfDigits? digits
  let whole := decimal.takeWhile (· != '.')
  let fraction := (decimal.dropWhile (· != '.')).drop 1
  let mantissa ← natOfDigits? (whole ++ fraction)
  return ⟨negative, mantissa, power - fraction.length⟩

/-- Reads a whole decimal. -/
def Literal.ofChars? : List Char → Option Literal
  | '-' :: text => unsigned? true text
  | '+' :: text => unsigned? false text
  | text => unsigned? false text

/-- The double nearest to a literal. -/
def Literal.toFloat (x : Literal) : Float :=
  let place := x.exponent + (Nat.toDigits 10 x.mantissa).length
  let magnitude : Float :=
    if x.mantissa = 0 ∨ place < -400 then 0.0
    else if 400 < place then 1.0 / 0.0
    else Float.ofScientific x.mantissa (x.exponent < 0) x.exponent.natAbs
  if x.negative then -magnitude else magnitude

/-- Reads a double. -/
def floatOfChars? (text : List Char) : Option Float :=
  (Literal.ofChars? text).map Literal.toFloat

end SchemaPress.Decimal
