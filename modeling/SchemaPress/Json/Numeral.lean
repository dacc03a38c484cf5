/-
Numerals: numbers as they are spelled in JSON, split into their parts.

A numeral without point and exponent is a whole number if it fits a
machine word, signed when it is negative. Every other numeral is a
double: as many digits as fit a word are gathered into one whole number,
and that is scaled once by a power of ten. The result is the nearest
double whenever the digits fit the mantissa, and close to it otherwise.
A minus sign on zero makes a double, since no whole number has it.
-/
import SchemaPress.Decimal.Reader
import SchemaPress.Json.Basic

namespace SchemaPress

/-- The parts of a number as it is spelled. -/
structure Numeral where
  negative : Bool
  whole : List Char
  /-- The digits behind the point, if there is a point. -/
  fraction : Option (List Char)
  /-- The exponent, if there is one. -/
  exponent : Option Int

namespace Numeral

/-- The largest number that fits a word. -/
def wordLimit : Nat := Nat.pow 2 64 - 1

/-- The value of a digit. -/
def digit (c : Char) : Nat := c.toNat - '0'.toNat

/-- The value of digits. -/
def value (digits : List Char) : Nat :=
  digits.foldl (fun n c => n * 10 + digit c) 0

/-- A whole number of digits, with a power of ten for those that were
left out. -/
structure Gathered where
  significand : Nat
  exponent : Int

/-- Gathers the digits before the point. From the first digit that does
not fit on, each only adds to the exponent. -/
def gatherWhole : Gathered → List Char → Gathered
  | g, [] => g
  | g, c :: rest =>
      let n := g.significand * 10 + digit c
      if g.exponent = 0 ∧ n ≤ wordLimit then gatherWhole ⟨n, 0⟩ rest
      else gatherWhole { g with exponent := g.exponent + 1 } rest

/-- Gathers the digits behind the point, up to the first that does not
fit. -/
def gatherFraction : Gathered → List Char → Gathered
  | g, [] => g
  | g, c :: rest =>
      let n := g.significand * 10 + digit c
      if n ≤ wordLimit then gatherFraction ⟨n, g.exponent - 1⟩ rest else g

/-- Divides by powers of ten that a double can hold. -/
def scaleDown : Nat → Float → Nat → Float
  | 0, _, _ => 0.0
  | fuel + 1, x, places =>
      if places ≤ 308 then x / Float.ofScientific 1 false places
      else if x == 0.0 then x
      else scaleDown fuel (x / Float.ofScientific 1 false 308) (places - 308)

/-- The double of gathered digits; nothing if it is too large. -/
def Gathered.toFloat? (g : Gathered) : Option Float :=
  let x := Float.ofNat g.significand
  if g.exponent < 0 then some (scaleDown 8 x g.exponent.natAbs)
  else if x == 0.0 then some x
  else if 308 < g.exponent then none
  else
    let scaled := x * Float.ofScientific 1 false g.exponent.natAbs
    if scaled.isInf then none else some scaled

/-- The double that a numeral spells. -/
def real? (n : Numeral) : Option Number := do
  let g := gatherFraction (gatherWhole ⟨0, 0⟩ n.whole)
    (n.fraction.getD [])
  let g := { g with exponent := g.exponent + n.exponent.getD 0 }
  let x ← g.toFloat?
  return .real (if n.negative then -x else x)

/-- The number that a numeral spells; nothing if the numeral is not
well formed or its number too large. -/
def number? (n : Numeral) : Option Number :=
  let superfluousZero := 1 < n.whole.length && n.whole.head? == some '0'
  if superfluousZero || n.whole.isEmpty || n.fraction == some [] then none
  else
    match n.fraction, n.exponent with
    | none, none =>
        let magnitude := value n.whole
        if n.negative then
          if 0 < magnitude ∧ magnitude ≤ Nat.pow 2 63 then
            some (.whole (-(magnitude : Int)))
          else n.real?
        else if magnitude ≤ wordLimit then some (.whole magnitude)
        else n.real?
    | _, _ => n.real?

/-- The numeral that a text is, from end to end. -/
def ofText? (text : String) : Option Numeral := do
  let (negative, text) := match text.toList with
    | '-' :: rest => (true, rest)
    | rest => (false, rest)
  let whole := text.takeWhile Char.isDigit
  let (fraction, text) := match text.drop whole.length with
    | '.' :: rest =>
        (some (rest.takeWhile Char.isDigit), rest.dropWhile Char.isDigit)
    | rest => (none, rest)
  let exponent ← match text with
    | [] => pure none
    | mark :: digits =>
        if mark = 'e' ∨ mark = 'E' then
          some <$> Decimal.intOfDigits? digits
        else none
  return ⟨negative, whole, fraction, exponent⟩

end Numeral

end SchemaPress
