/-
JSON values: what a model document is once its keys are text, and what a
template is rendered against.

# Numbers

A number is a whole number or a double, and the two never meet: `3` and
`3.0` are different values although they measure the same. Doubles here
are finite; a document's infinities and non-numbers become `null` before
they get this far.

# Objects

An object keeps its fields in order. Order shows wherever an object is
written out or walked through, but not in comparison: two objects are the
same when they have the same names with the same values.
-/
import SchemaPress.Fields
import SchemaPress.Decimal.Format

namespace SchemaPress

/-- A whole number or a double. -/
inductive Number where
  | whole (value : Int)
  | real (value : Float)

/-- A JSON value with ordered objects. -/
inductive Json where
  | null
  | bool (value : Bool)
  | number (value : Number)
  | string (value : String)
  | array (items : List Json)
  | object (fields : List (String × Json))

instance : Inhabited Json := ⟨.null⟩

-- ============================================================ numbers

namespace Number

/-- Whole numbers agree by value, doubles as doubles do; a whole number
and a double never agree. -/
def same : Number → Number → Bool
  | .whole a, .whole b => a = b
  | .real a, .real b => a == b
  | _, _ => false

/-- Whether a number stands for "yes": anything but zero and the doubles
too small to be stored at full precision. -/
def isTruthy : Number → Bool
  | .whole a => a ≠ 0
  | .real a =>
      match Decimal.Dyadic.ofBits? a.toBits.toNat with
      | some x => Decimal.Dyadic.leadingMantissa ≤ x.mantissa
      | none => false

/-- Doubles are positional from 0.00001 on and below 10 ^ 16; outside
that range they take a signed exponent. -/
def layout : Decimal.Format where
  lowest := -5
  highest := 16
  plus := "+"
  infinity := "null"
  notANumber := "null"

/-- The text of a number. -/
def text : Number → String
  | .whole a => toString a
  | .real a => layout.write a

end Number

-- ============================================================= values

namespace Json

/-- The value of a field; nothing for a value that is no object. -/
def field? (name : String) : Json → Option Json
  | .object fields => Fields.get? name fields
  | _ => none

/-- The text of a string value. -/
def string? : Json → Option String
  | .string s => some s
  | _ => none

/-- A number that counts something. -/
def count? : Json → Option Nat
  | .number (.whole n) => if 0 ≤ n then some n.toNat else none
  | _ => none

mutual

/-- Whether two values are the same. The order of fields does not
matter. -/
def same : Json → Json → Bool
  | .null, .null => true
  | .bool a, .bool b => a = b
  | .number a, .number b => a.same b
  | .string a, .string b => a = b
  | .array xs, .array ys => sameItems xs ys
  | .object xs, .object ys =>
      xs.length = ys.length && sameFields xs ys
  | _, _ => false

/-- Whether two lists are the same item by item. -/
def sameItems : List Json → List Json → Bool
  | [], [] => true
  | x :: xs, y :: ys => x.same y && sameItems xs ys
  | _, _ => false

/-- Whether every field on the left is there on the right. -/
def sameFields : List (String × Json) → List (String × Json) → Bool
  | [], _ => true
  | (name, x) :: xs, ys =>
      (match Fields.get? name ys with
        | some y => x.same y
        | none => false) && sameFields xs ys

end

/-- Whether a value stands for "yes". Zero counts as "no" unless
`includeZero` is set; so do empty text, arrays and objects. -/
def isTruthy (includeZero : Bool) : Json → Bool
  | .null => false
  | .bool b => b
  | .number n => includeZero || n.isTruthy
  | .string s => !s.isEmpty
  | .array items => !items.isEmpty
  | .object fields => !fields.isEmpty

end Json

end SchemaPress
