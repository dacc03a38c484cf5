/-
Helpers: the operations that templates can call. A helper has a name, and
what it does depends on how it is used: as a value, it yields one from
its arguments; as a block, it may also choose which body is rendered, how
often and with which base (`Rendering`). The helpers that only choose
bodies yield empty text when they are used as values.

# Comparison

Equality is that of JSON values, so a whole number and a double differ.
Order is by size: numbers compare by what they measure, texts by code
points, and a text next to a number counts as the number that it spells
in JSON. Values of different kinds have no order, and then no order
relation holds.
-/
import SchemaPress.Decimal.Shortest
import SchemaPress.Json.Numeral
import SchemaPress.Language
import SchemaPress.Template.Scope

namespace SchemaPress

-- ============================================================== order

namespace Number

/-- A finite number as an integer times a power of two; nothing for a
double that is not finite. -/
def scaled? : Number → Option (Int × Int)
  | .whole n => some (n, 0)
  | .real x =>
      let bits := x.toBits.toNat
      (Decimal.Dyadic.ofBits? bits).map fun d =>
        (if bits < Nat.pow 2 63 then d.mantissa else -d.mantissa, d.exponent)

/-- The order of two numbers by what they measure. -/
def order? (a b : Number) : Option Ordering := do
  let (m, e) ← a.scaled?
  let (n, f) ← b.scaled?
  let least := min e f
  return compare (m * Int.pow 2 (e - least).toNat)
    (n * Int.pow 2 (f - least).toNat)

end Number

namespace Template

/-- The number that a text spells. -/
def numberOfText? (text : String) : Option Number := do
  (← Numeral.ofText? text).number?

/-- The order of two values, if they have one. -/
def order? : Json → Json → Option Ordering
  | .number a, .number b => a.order? b
  | .string a, .string b => some (compare a b)
  | .bool a, .bool b => some (compare a b)
  | .number a, .string b => do a.order? (← numberOfText? b)
  | .string a, .number b => do (← numberOfText? a).order? b
  | _, _ => none

-- =============================================================== text

mutual

/-- How a value is written into the result. -/
def shown : Json → String
  | .null => ""
  | .bool true => "true"
  | .bool false => "false"
  | .number n => n.text
  | .string s => s
  | .array items => "[" ++ shownItems items ++ "]"
  | .object _ => "[object]"

/-- Items with a comma between neighbours. -/
def shownItems : List Json → String
  | [] => ""
  | [x] => shown x
  | x :: y :: rest => shown x ++ ", " ++ shownItems (y :: rest)

end

/-- How what an expression yields is written; nothing if it is
missing. -/
def Found.shown (found : Found) : String := Template.shown found.json

-- ============================================================ helpers

/-- A relation between two values. -/
inductive Relation where
  | same
  | different
  | greater
  | atLeast
  | less
  | atMost
  deriving DecidableEq, Repr

/-- A question with two answers. -/
inductive Test where
  | relation (relation : Relation)
  /-- Whether all values are truthy. -/
  | every
  /-- Whether one value is truthy. -/
  | any
  | negation
  deriving DecidableEq, Repr

/-- An operation that templates can call. -/
inductive Helper where
  /-- Renders one body or the other. -/
  | choice (negated : Bool)
  /-- Renders a body for each item of a collection. -/
  | each
  /-- Renders a body with another base. -/
  | rebase
  /-- Renders a body. -/
  | plain
  /-- Yields nothing. -/
  | log
  /-- What a collection has under a computed name. -/
  | lookup
  | test (test : Test)
  | length
  /-- The type expression of a schema. -/
  | typeName (language : Language)
  deriving DecidableEq, Repr

/-- What a helper is given. -/
structure Given where
  positional : List Found
  options : Fields Found

/-- The value of an argument that has to be there. -/
def Given.get (callee : String) (index : Nat) (given : Given) :
    Except RenderError Found :=
  match given.positional[index]? with
  | some found => .ok found
  | none => .error (.missingArgument callee index)

namespace Relation

/-- All relations. -/
def all : List Relation :=
  [.same, .different, .greater, .atLeast, .less, .atMost]

/-- The name of a relation. -/
def name : Relation → String
  | .same => "eq"
  | .different => "ne"
  | .greater => "gt"
  | .atLeast => "gte"
  | .less => "lt"
  | .atMost => "lte"

/-- Whether a relation holds between two values. -/
def holds : Relation → Json → Json → Bool
  | .same, a, b => a.same b
  | .different, a, b => !a.same b
  | .greater, a, b => order? a b == some .gt
  | .atLeast, a, b => order? a b == some .gt || order? a b == some .eq
  | .less, a, b => order? a b == some .lt
  | .atMost, a, b => order? a b == some .lt || order? a b == some .eq

end Relation

namespace Test

/-- All tests. -/
def all : List Test :=
  Relation.all.map Test.relation ++ [.every, .any, .negation]

/-- The name of a test. -/
def name : Test → String
  | .relation r => r.name
  | .every => "and"
  | .any => "or"
  | .negation => "not"

/-- The answer for what the test is given. -/
def answer (test : Test) (given : Given) : Except RenderError Bool := do
  let isTruthy (found : Found) : Bool := found.json.isTruthy false
  match test with
  | .relation r =>
      let first ← given.get test.name 0
      let second ← given.get test.name 1
      return r.holds first.json second.json
  | .every => return given.positional.all isTruthy
  | .any => return given.positional.any isTruthy
  | .negation => return !isTruthy (← given.get test.name 0)

end Test

namespace Helper

/-- All helpers. -/
def all : List Helper :=
  [.choice false, .choice true, .each, .rebase, .plain, .log, .lookup,
    .length]
    ++ Test.all.map .test ++ Language.all.map .typeName

/-- The name a helper is called by. -/
def name : Helper → String
  | .choice false => "if"
  | .choice true => "unless"
  | .each => "each"
  | .rebase => "with"
  | .plain => "raw"
  | .log => "log"
  | .lookup => "lookup"
  | .test question => question.name
  | .length => "len"
  | .typeName language => language.helper

/-- The helper with a name. -/
def ofName? (name : String) : Option Helper :=
  all.find? fun helper => helper.name = name

-- ------------------------------------------------------------- values

/-- Whether zero counts as "yes" in a choice. -/
def includesZero (given : Given) : Bool :=
  match (Fields.get? "includeZero" given.options).map Found.json with
  | some (.bool answer) => answer
  | _ => false

/-- Whether a choice takes its first body. -/
def chooses (negated : Bool) (given : Given) :
    Except RenderError Bool := do
  let condition ← given.get (choice false).name 0
  return condition.json.isTruthy (includesZero given) != negated

/-- The levels that messages can have. -/
def logLevels : List String := ["error", "warn", "info", "debug", "trace"]

/-- Checks the level of a message. -/
def checkLevel (given : Given) : Except RenderError Unit :=
  match (Fields.get? "level" given.options).map Found.json with
  | some (.string level) =>
      let word := String.ofList (level.toList.map Char.toLower)
      if logLevels.contains word then .ok ()
      else .error (.unknownLogLevel level)
  | _ => .ok ()

/-- What a collection has at a position or under a name. -/
def entry : Json → Json → Json
  | .array items, key =>
      match key.count? with
      | some i => (items[i]?).getD .null
      | none => .null
  | .object fields, .string name => (Fields.get? name fields).getD .null
  | _, _ => .null

/-- How long a value is; text by its bytes. -/
def size : Json → Nat
  | .array items => items.length
  | .object fields => fields.length
  | .string s => s.utf8ByteSize
  | _ => 0

/-- The type expression of a value that should be a schema. -/
def typeOf (language : Language) (value : Json) : String :=
  language.typeOfSchema (Schema.ofJson value)

/-- What a helper yields as a value. -/
def value (helper : Helper) (given : Given) : Except RenderError Json :=
  match helper with
  | .choice negated => do
      let _ ← chooses negated given
      return .string ""
  | .each | .rebase => do
      let _ ← given.get helper.name 0
      return .string ""
  | .plain => return .string ""
  | .log => do
      checkLevel given
      return .string ""
  | .lookup => do
      let collection ← given.get helper.name 0
      let key ← given.get helper.name 1
      return entry collection.json key.json
  | .test question => return .bool (← question.answer given)
  | .length =>
      match given.positional with
      | found :: _ => return .number (.whole (size found.json))
      | [] => throw .nothingToMeasure
  | .typeName language => do
      return .string (typeOf language (← given.get helper.name 0).json)

end Helper

end Template

end SchemaPress
