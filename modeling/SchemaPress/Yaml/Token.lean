/-
Tokens: what a YAML stream is made of once its layout has been
understood. Indentation has become explicit here: the start of a block
collection and its end are tokens of their own although no character
spells them, and so is the mark of a mapping key that is written without
one.

Tags are bytes here and not text, because they can be spelled byte by
byte and nothing demands that the bytes make up characters.
-/

namespace SchemaPress.Yaml

/-- The bytes that spell a text. -/
def bytesOf (text : String) : List UInt8 := text.toUTF8.data.toList

/-- The text that bytes spell; nothing if they spell none. -/
def textOf? (bytes : List UInt8) : Option String :=
  String.fromUTF8? (ByteArray.mk bytes.toArray)

/-- A unit of a YAML stream. The end of the stream is the end of the
list of tokens. -/
inductive Token where
  | version (major minor : Nat)
  | tagDirective (handle : String) (stem : List UInt8)
  | documentStart
  | documentEnd
  | blockSequenceStart
  | blockMappingStart
  | blockEnd
  | flowSequenceStart
  | flowSequenceEnd
  | flowMappingStart
  | flowMappingEnd
  | blockEntry
  | flowEntry
  | key
  | value
  | alias (name : String)
  | anchor (name : String)
  | tag (handle : String) (suffix : List UInt8)
  | scalar (text : String) (plain : Bool)
  deriving DecidableEq, Repr

end SchemaPress.Yaml
