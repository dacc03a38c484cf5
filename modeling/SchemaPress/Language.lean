/-
Target languages, and what types are called in them.

A language has a table for the leaves of a shape and a way to write a
list; everything else about a type expression follows from the shape, so
two languages always agree on where a list or a model stands.
-/
import SchemaPress.Shape

namespace SchemaPress

/-- The languages that models can be written in without a template of
one's own. -/
inductive Language where
  | typeScript
  | java
  deriving DecidableEq, Repr

namespace Language

/-- All languages. -/
def all : List Language := [.typeScript, .java]

/-- The name of a language as it is shown. -/
def name : Language → String
  | .typeScript => "TypeScript"
  | .java => "Java"

/-- The language with a name. Upper and lower case of ASCII letters do
not matter, anything else does. -/
def ofName? (text : String) : Option Language :=
  all.find? fun language =>
    language.name.toList.map Char.toLower = text.toList.map Char.toLower

/-- A language is found by the name that is shown. -/
theorem ofName?_name (language : Language) :
    ofName? language.name = some language := by
  cases language <;> decide

/-- The template helper that writes types of a language. -/
def helper : Language → String
  | .typeScript => "getTsType"
  | .java => "getJavaType"

/-- What a primitive type is called. -/
def primitive : Language → Primitive → String
  | .typeScript, .string => "string"
  | .typeScript, .number => "number"
  | .typeScript, .integer => "number"
  | .typeScript, .boolean => "boolean"
  | .java, .string => "String"
  | .java, .number => "Long"
  | .java, .integer => "Long"
  | .java, .boolean => "Boolean"

/-- What is written where nothing is known. -/
def untyped : Language → String
  | .typeScript => "any"
  | .java => "Object"

/-- A list of elements. -/
def listOf (language : Language) (element : String) : String :=
  match language with
  | .typeScript => element ++ "[]"
  | .java => "List<" ++ element ++ ">"

/-- The type expression of a shape. -/
def typeOf (language : Language) : Shape → String
  | .primitive kind => language.primitive kind
  | .array element => language.listOf (language.typeOf element)
  | .model name => name
  | .untyped => language.untyped

/-- The type expression of a schema. -/
def typeOfSchema (language : Language) (s : Schema) : String :=
  language.typeOf (Shape.ofSchema s)

end Language

end SchemaPress
