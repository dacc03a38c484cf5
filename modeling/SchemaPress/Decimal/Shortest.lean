/-
Shortest decimals: the fewest significant digits that still name one
double and no other.

A finite double is a natural number times a power of two. The reals that
round to it form an interval around it, half a unit to each side (a
quarter below a power of two, where the spacing changes), and the ends
belong to it exactly when the mantissa is even. A decimal reads back as
the double precisely when it lies in that interval.

# Why two neighbours suffice

Fix a number of digits. The decimals with that many digits form a grid
around the value, and if any grid point lies in the interval then one of
the two points next to the value does, because the interval holds the
value itself. So for one digit, two digits, and so on up to seventeen,
it is enough to test the two neighbours; the first grid with a hit wins,
of two hits the nearer, and of two equally near ones the even.

All of it is exact arithmetic on natural numbers: the interval and the
grid are brought to one denominator before anything is compared.
-/

namespace SchemaPress.Decimal

/-- `digits · 10 ^ exponent`. -/
structure Scaled where
  digits : Nat
  exponent : Int
  deriving DecidableEq

/-- A finite double without its sign: `mantissa · 2 ^ exponent`. -/
structure Dyadic where
  mantissa : Nat
  exponent : Int
  deriving DecidableEq

/-- The least exponent a double can have. -/
def Dyadic.leastExponent : Int := -1074

/-- The mantissa from which a double's exponent grows. -/
def Dyadic.leadingMantissa : Nat := Nat.pow 2 52

/-- The magnitude stored in the 64 bits of a double; nothing for an
infinity or a value that is no number. -/
def Dyadic.ofBits? (bits : Nat) : Option Dyadic :=
  let power : Nat := bits / Nat.pow 2 52 % Nat.pow 2 11
  let fraction : Nat := bits % Nat.pow 2 52
  if power = 2047 then none
  else if power = 0 then some ⟨fraction, leastExponent⟩
  else some ⟨fraction + leadingMantissa, (power : Int) - 1075⟩

/-- The reals that round to a double, over one denominator. -/
structure Interval where
  low : Nat
  value : Nat
  high : Nat
  denominator : Nat
  closed : Bool

/-- Half a unit to each side; a quarter below where the spacing of
doubles changes. -/
def Dyadic.interval (x : Dyadic) : Interval :=
  let up := Nat.pow 2 x.exponent.toNat
  let below :=
    if x.mantissa = leadingMantissa ∧ leastExponent < x.exponent then 1
    else 2
  { low := (4 * x.mantissa - below) * up
    value := 4 * x.mantissa * up
    high := (4 * x.mantissa + 2) * up
    denominator := 4 * Nat.pow 2 (-x.exponent).toNat
    closed := x.mantissa % 2 = 0 }

/-- How many decimal places a natural number takes. -/
def places (n : Nat) : Nat := (Nat.toDigits 10 n).length

/-- How many places after the point stay zero before `value / below`
shows a digit, for a value below one. -/
def leadingZeros : Nat → Nat → Nat → Nat
  | 0, _, _ => 0
  | fuel + 1, value, below =>
      if below ≤ value * 10 then 0
      else leadingZeros fuel (value * 10) below + 1

/-- The place of the first digit: the value lies in
`[10 ^ (place - 1), 10 ^ place)`. -/
def Interval.place (i : Interval) : Int :=
  if i.denominator ≤ i.value then places (i.value / i.denominator)
  else -(leadingZeros 400 i.value i.denominator : Nat)

/-- The decimal of the interval on the grid `10 ^ exponent` that is
nearest to the value, when the interval meets the grid. -/
def Interval.onGrid? (i : Interval) (exponent : Int) : Option Scaled :=
  let scale := Nat.pow 10 (-exponent).toNat
  let unit := i.denominator * Nat.pow 10 exponent.toNat
  let value := i.value * scale
  let inside (d : Nat) : Bool :=
    if i.closed then i.low * scale ≤ d * unit && d * unit ≤ i.high * scale
    else i.low * scale < d * unit && d * unit < i.high * scale
  let d := value / unit
  let twice := 2 * (value - d * unit)
  let upper := unit < twice || (unit == twice && d % 2 == 1)
  match inside d, inside (d + 1) with
  | true, true => some ⟨if upper then d + 1 else d, exponent⟩
  | true, false => some ⟨d, exponent⟩
  | false, true => some ⟨d + 1, exponent⟩
  | false, false => none

/-- Moves trailing zeros of the digits into the exponent. -/
def Scaled.strip : Nat → Scaled → Scaled
  | 0, x => x
  | fuel + 1, x =>
      if x.digits % 10 = 0 then
        strip fuel ⟨x.digits / 10, x.exponent + 1⟩
      else x

/-- The shortest decimal that reads back as a positive double. Seventeen
digits always suffice, so the search ends with an answer. -/
def Dyadic.shortest (x : Dyadic) : Scaled :=
  let i := x.interval
  let place := i.place
  let found := (List.range 17).findSome? fun (n : Nat) =>
    i.onGrid? (place - (n + 1))
  Scaled.strip 20 (found.getD ⟨x.mantissa, 0⟩)

end SchemaPress.Decimal
