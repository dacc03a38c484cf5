/-
Templates: text with places to fill in.

A template is a list of elements. Apart from text there are values, calls
of helpers, blocks (a helper with a body that it renders as it sees fit,
and another body for the other case), decorators, which change how the
rest is rendered, and inclusions of other templates, the partials.

What stands in a place to fill in is an expression: a literal, a
reference, or the call of a helper with expressions as arguments, some of
them named.
-/
import SchemaPress.Json.Basic
import SchemaPress.Template.Reference

namespace SchemaPress.Template

/-- What yields a value. -/
inductive Expr where
  | literal (value : Json)
  | reference (target : Reference)
  | call (name : String) (arguments : List Expr)
      (options : List (String × Expr))

/-- What a call is given: values in order, and values by name. -/
structure Arguments where
  positional : List Expr
  options : List (String × Expr)

/-- How an included template is named: outright, or by a computed
text. -/
inductive TemplateName where
  | fixed (name : String)
  | computed (name : Expr)

/-- A part of a template. -/
inductive Element where
  | text (text : String)
  /-- A lone value or name. -/
  | value (value : Expr)
  | call (name : String) (arguments : Arguments)
  /-- A block; `alone` if its start has a line to itself. -/
  | block (name : String) (arguments : Arguments)
      (parameters : List String) (alone : Bool) (body : List Element)
      (otherwise : Option (List Element))
  | decorator (name : String) (arguments : Arguments)
      (body : Option (List Element))
  /-- The inclusion of another template; `alone` if it has a line to
  itself. The lines of the other template are indented like the
  inclusion. -/
  | inclusion (name : TemplateName) (arguments : Arguments)
      (alone : Bool) (indent : String) (body : Option (List Element))

end SchemaPress.Template

namespace SchemaPress

/-- A parsed template. -/
abbrev Template := List Template.Element

end SchemaPress
