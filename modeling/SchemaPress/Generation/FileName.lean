/-
Names of output files. A template carries a pattern for the names of the
files that come from it: a placeholder for the name of what is rendered,
a dot and an extension. Where the placeholder occurs in the extension
again, it is filled as well, and what has been filled in is not looked at
a second time.
-/

namespace SchemaPress

/-- How the files that come from a template are named. -/
structure NamePattern where
  text : String
  deriving DecidableEq, Repr

namespace NamePattern

/-- What stands for the name. -/
def placeholder : List Char :=
  ['{', '{', '@', 'k', 'e', 'y', '}', '}']

/-- The pattern with an extension. Dots in front of the extension do not
count. -/
def ofExtension (extension : String) : NamePattern :=
  ⟨String.ofList
    (placeholder ++ '.' :: extension.toList.dropWhile (· == '.'))⟩

/-- Text with every placeholder filled; `rest` is how much is left of the
placeholder that was filled last. -/
def fill (name : List Char) : (rest : Nat) → List Char → List Char
  | _, [] => []
  | rest + 1, _ :: text => fill name rest text
  | 0, c :: text =>
      if placeholder.isPrefixOf (c :: text) then
        name ++ fill name (placeholder.length - 1) text
      else c :: fill name 0 text

/-- The file name for a name. -/
def nameFor (pattern : NamePattern) (name : String) : String :=
  String.ofList (fill name.toList 0 pattern.text.toList)

end NamePattern

end SchemaPress
