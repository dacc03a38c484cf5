/-
From YAML to JSON. JSON knows neither tags nor keys other than text, and
a YAML tree is brought into that shape before anything is read from it
(`withTextKeys`): tags are stripped down to their content, a key that is
a number, a truth value or nothing becomes its text, and an entry whose
key is a collection or has a tag is dropped. Keys that differ may have
the same text, so this is where a name can be written twice; the rule for
fields decides (`Fields.ofList`).

A tree in that shape is JSON in all but name (`toJson`). What JSON cannot
say is a double without digits, and those become `null`.
-/
import SchemaPress.Json.Text
import SchemaPress.Yaml.Node

namespace SchemaPress.Yaml.Node

/-- Doubles as keys are laid out like doubles as values, but the sign of
a positive exponent is left out and the doubles without digits have their
YAML spelling. -/
def keyLayout : Decimal.Format where
  lowest := -5
  highest := 16
  plus := ""
  infinity := ".inf"
  notANumber := ".nan"

/-- The text of an untagged scalar as a key. -/
def keyText? : Node → Option String
  | .string s => some s
  | .number (.whole n) => some (toString n)
  | .number (.real x) => some (keyLayout.write x)
  | .bool true => some "true"
  | .bool false => some "false"
  | .null => some "null"
  | _ => none

/-- Fields as a mapping with text keys. -/
def ofFields (fields : Fields Node) : Node :=
  .mapping (fields.map fun entry => (.string entry.1, entry.2))

mutual

/-- Makes every key text and strips every tag. -/
def withTextKeys : Node → Node
  | .mapping entries =>
      ofFields (Fields.ofList (entriesWithTextKeys entries))
  | .sequence items => .sequence (itemsWithTextKeys items)
  | .tagged _ content => content.withTextKeys
  | .null => .null
  | .bool b => .bool b
  | .number n => .number n
  | .string s => .string s

/-- `withTextKeys` on every item. -/
def itemsWithTextKeys : List Node → List Node
  | [] => []
  | x :: xs => x.withTextKeys :: itemsWithTextKeys xs

/-- The entries whose key has a text, under that text. -/
def entriesWithTextKeys : List (Node × Node) → List (String × Node)
  | [] => []
  | (key, x) :: xs =>
      match key.keyText? with
      | some name => (name, x.withTextKeys) :: entriesWithTextKeys xs
      | none => entriesWithTextKeys xs

end

/-- A number as JSON. -/
def jsonNumber : Number → Json
  | .whole n => .number (.whole n)
  | .real x => if x.isFinite then .number (.real x) else .null

mutual

/-- A tree with text keys and without tags as JSON. -/
def toJson : Node → Json
  | .null => .null
  | .bool b => .bool b
  | .number n => jsonNumber n
  | .string s => .string s
  | .sequence items => .array (jsonItems items)
  | .mapping entries => .object (jsonFields entries)
  | .tagged _ content => content.toJson

/-- `toJson` on every item. -/
def jsonItems : List Node → List Json
  | [] => []
  | x :: xs => x.toJson :: jsonItems xs

/-- The entries with a text key. -/
def jsonFields : List (Node × Node) → List (String × Json)
  | [] => []
  | (.string name, x) :: xs => (name, x.toJson) :: jsonFields xs
  | _ :: xs => jsonFields xs

end

end SchemaPress.Yaml.Node
