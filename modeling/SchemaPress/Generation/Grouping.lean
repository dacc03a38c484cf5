/-
Grouping: whether each model goes into a file of its own or all models
share one. A language that wants one type per file decides it; for every
other language, known or not, the models share a file. The name is
compared here on its own, whether or not it is that of a known language.
-/

namespace SchemaPress

/-- How models are spread over files. -/
inductive Grouping where
  | perModel
  | aggregated
  deriving DecidableEq, Repr

namespace Grouping

/-- The grouping that suits a language, which is given by its name in any
case. -/
def ofLanguage (name : String) : Grouping :=
  if name.toList.map Char.toLower = "java".toList then .perModel
  else .aggregated

end Grouping

end SchemaPress
