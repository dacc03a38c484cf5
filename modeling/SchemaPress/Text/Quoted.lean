/-
Quoted text: a text between double quotes, with everything spelled out
that could not be told apart otherwise. The quote and the backslash get a
backslash in front, the usual controls are written as a letter, and other
characters that do not show are written by their number.
-/
import SchemaPress.Text.Unseen

namespace SchemaPress.Text

/-- How a character is written between quotes. -/
def quotedChar (c : Char) : List Char :=
  match c with
  | '"' => ['\\', '"']
  | '\\' => ['\\', '\\']
  | '\n' => ['\\', 'n']
  | '\r' => ['\\', 'r']
  | '\t' => ['\\', 't']
  | '\x00' => ['\\', '0']
  | c =>
      if isUnseen c then
        ['\\', 'u', '{'] ++ Nat.toDigits 16 c.toNat ++ ['}']
      else [c]

/-- A text between quotes. -/
def quoted (text : String) : String :=
  String.ofList ('"' :: text.toList.flatMap quotedChar ++ ['"'])

end SchemaPress.Text
