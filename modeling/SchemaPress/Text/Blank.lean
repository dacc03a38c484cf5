/-
White space as a property of characters: the ones with the Unicode
property `White_Space`, which is wider than the class in the core
library and includes the separators of many scripts. Trimming a text
removes exactly these from its ends.
-/

namespace SchemaPress.Text

/-- The white space characters beyond those of ASCII. -/
def wideBlanks : List Nat :=
  [0x85, 0xa0, 0x1680, 0x2028, 0x2029, 0x202f, 0x205f, 0x3000]

/-- Whether a character is white space. -/
def isWhite (c : Char) : Bool :=
  let n := c.toNat
  (0x09 ≤ n && n ≤ 0x0d) || n == 0x20 || (0x2000 ≤ n && n ≤ 0x200a)
    || wideBlanks.contains n

/-- A text without the trailing characters of one kind. -/
def dropEndWhile (p : Char → Bool) (text : List Char) : List Char :=
  (text.reverse.dropWhile p).reverse

/-- A text without white space at its start. -/
def trimStart (text : List Char) : List Char := text.dropWhile isWhite

/-- A text without white space at its end. -/
def trimEnd (text : List Char) : List Char := dropEndWhile isWhite text

end SchemaPress.Text
