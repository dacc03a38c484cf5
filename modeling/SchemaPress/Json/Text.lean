/-
JSON as text, in the compact form: no blank anywhere, fields in their
order. Inside a string only the quote, the backslash and the control
characters are escaped, the five common ones by a letter and the others
by their number; everything else stands for itself.
-/
import SchemaPress.Json.Basic

namespace SchemaPress.Json

/-- A hexadecimal digit, in lower case. -/
def hexDigit (n : Nat) : Char := Nat.digitChar (n % 16)

/-- How a character is written inside a string. -/
def escapeChar (c : Char) : List Char :=
  match c with
  | '"' => ['\\', '"']
  | '\\' => ['\\', '\\']
  | '\n' => ['\\', 'n']
  | '\r' => ['\\', 'r']
  | '\t' => ['\\', 't']
  | '\x08' => ['\\', 'b']
  | '\x0c' => ['\\', 'f']
  | c =>
      if c.toNat < 0x20 then
        ['\\', 'u', '0', '0', hexDigit (c.toNat / 16), hexDigit c.toNat]
      else [c]

/-- A string between its quotes. -/
def quote (s : String) : String :=
  String.ofList ('"' :: s.toList.flatMap escapeChar ++ ['"'])

mutual

/-- The compact text of a value. -/
def text : Json → String
  | .null => "null"
  | .bool true => "true"
  | .bool false => "false"
  | .number n => n.text
  | .string s => quote s
  | .array items => "[" ++ textItems items ++ "]"
  | .object fields => "\x7b" ++ textFields fields ++ "\x7d"

/-- Items with a comma between neighbours. -/
def textItems : List Json → String
  | [] => ""
  | [x] => x.text
  | x :: y :: rest => x.text ++ "," ++ textItems (y :: rest)

/-- Fields with a comma between neighbours. -/
def textFields : List (String × Json) → String
  | [] => ""
  | [(name, x)] => quote name ++ ":" ++ x.text
  | (name, x) :: y :: rest =>
      quote name ++ ":" ++ x.text ++ "," ++ textFields (y :: rest)

end

end SchemaPress.Json
