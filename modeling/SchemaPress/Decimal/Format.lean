/-
Writing doubles. The digits are the shortest that read back
(`Decimal.Dyadic.shortest`); what is left is layout, and a `Format`
records it: where positional notation gives way to an exponent, how an
exponent is signed, and what stands for the values that have no digits.

Positional notation always shows at least one digit on each side of the
point, so `1.0` and `0.5`, never `1` or `.5`.
-/
import SchemaPress.Decimal.Shortest

namespace SchemaPress.Decimal

/-- How doubles are laid out as text. -/
structure Format where
  /-- Values below `10 ^ lowest` take an exponent. -/
  lowest : Int
  /-- Values from `10 ^ highest` on take an exponent. -/
  highest : Int
  /-- Written before an exponent that is not negative. -/
  plus : String
  infinity : String
  notANumber : String

/-- The digits of a natural number. -/
def digitText (n : Nat) : String := String.ofList (Nat.toDigits 10 n)

/-- `n` zeros. -/
def zeros (n : Nat) : String := String.ofList (List.replicate n '0')

/-- Lays out digits with the point after `place` of them. -/
def positional (digits : List Char) (place : Int) : String :=
  let count : Int := digits.length
  if count ≤ place then
    String.ofList digits ++ zeros (place - count).toNat ++ ".0"
  else if 0 < place then
    String.ofList (digits.take place.toNat) ++ "."
      ++ String.ofList (digits.drop place.toNat)
  else
    "0." ++ zeros (-place).toNat ++ String.ofList digits

/-- One digit, the rest after the point when there is a rest, and the
exponent. -/
def Format.scientific (format : Format) (digits : List Char)
    (exponent : Int) : String :=
  let rest := digits.drop 1
  let fraction := if rest.isEmpty then "" else "." ++ String.ofList rest
  let sign := if exponent < 0 then "-" else format.plus
  String.ofList (digits.take 1) ++ fraction ++ "e" ++ sign
    ++ digitText exponent.natAbs

/-- The text of a positive decimal. -/
def Format.writeScaled (format : Format) (x : Scaled) : String :=
  let digits := Nat.toDigits 10 x.digits
  let place : Int := digits.length + x.exponent
  if format.lowest < place ∧ place ≤ format.highest then
    positional digits place
  else format.scientific digits (place - 1)

/-- The text of a magnitude. -/
def Format.writeMagnitude (format : Format) (x : Dyadic) : String :=
  if x.mantissa = 0 then "0.0" else format.writeScaled x.shortest

/-- The text of a double. Zero keeps its sign. -/
def Format.write (format : Format) (x : Float) : String :=
  let bits := x.toBits.toNat
  let sign := if bits / Nat.pow 2 63 % 2 = 1 then "-" else ""
  match Dyadic.ofBits? bits with
  | some magnitude => sign ++ format.writeMagnitude magnitude
  | none =>
      if bits % Nat.pow 2 52 = 0 then sign ++ format.infinity
      else format.notANumber

end SchemaPress.Decimal
