/-
Tags: what stands between braces in a template, before it is known which
blocks belong together.

# Forms

A value or a call stands between two braces, or between three, or behind
an ampersand; all three mean the same, since nothing is escaped. A number
sign starts a block and a slash ends it; `else` (or a caret) separates
the two bodies, and with a call behind it starts a block in the second
one. A star marks a decorator, a greater-than sign the inclusion of
another template, an exclamation mark a comment. Four braces start and
end a block whose text is taken as it is.

A tilde inside the braces of a tag asks for the white space on that side
to be removed.

# Names and calls

A name with at least one argument is a call. A name alone is read as a
reference; whether it names a helper shows only when it is rendered.
-/
import SchemaPress.Template.Basic
import SchemaPress.Template.Literal

namespace SchemaPress.Template

/-- What stands between braces. -/
inductive Tag where
  | value (value : Expr)
  | call (name : String) (arguments : Arguments)
  | blockStart (name : String) (arguments : Arguments)
      (parameters : List String)
  | rawStart (name : String) (arguments : Arguments)
      (parameters : List String)
  | rawEnd (name : String)
  | otherwise
  | otherwiseBlock (name : String) (arguments : Arguments)
      (parameters : List String)
  | decorator (name : String) (arguments : Arguments)
  | decoratorStart (name : String) (arguments : Arguments)
  | inclusion (name : TemplateName) (arguments : Arguments)
  | inclusionStart (name : TemplateName) (arguments : Arguments)
  /-- The end of a block, by a name or without one. -/
  | blockEnd (name : String)
  | comment

/-- A tag as it stands in a template. -/
structure Markup where
  tag : Tag
  /-- Whether the white space before it is to be removed. -/
  trimBefore : Bool
  /-- Whether the white space behind it is to be removed. -/
  trimAfter : Bool
  /-- Whether its literals all spell values. -/
  sound : Bool

namespace Tag

open Grammar

-- ======================================================== expressions

/-- Reads a name. -/
def name : Grammar String := do
  return String.ofList (← word isNameChar)

/-- Reads a reference. -/
def reference : Grammar Expr := do
  match Reference.ofChars? (← rest) with
  | some (target, after) =>
      moveTo after
      return .reference target
  | none => failure

/-- A word that cannot start an argument. -/
def keyword : Grammar Unit := do
  exactly "as" <|> exactly "else"
  blanks
  notBefore isNameChar

mutual

/-- Reads an argument. -/
def argument : Nat → Grammar Expr
  | 0 => failure
  | fuel + 1 => do
      refuse keyword
      (Expr.literal <$> Literal.read) <|> reference <|> nested fuel

/-- Reads an argument with a name. -/
def option : Nat → Grammar (String × Expr)
  | 0 => failure
  | fuel + 1 => do
      let key ← name
      sign "="
      blanks
      return (key, ← argument fuel)

/-- Reads arguments, with and without names. -/
def arguments : Nat → Grammar Arguments
  | 0 => return ⟨[], []⟩
  | fuel + 1 =>
      (do
        blanks
        let given ← option fuel
        let more ← arguments fuel
        return { more with options := given :: more.options })
      <|> (do
        blanks
        let given ← argument fuel
        let more ← arguments fuel
        return { more with positional := given :: more.positional })
      <|> return ⟨[], []⟩

/-- Reads a name with at least one argument. -/
def application : Nat → Grammar (String × Arguments)
  | 0 => failure
  | fuel + 1 => do
      let callee ← name
      let given ← arguments fuel
      if given.positional.isEmpty && given.options.isEmpty then failure
      else return (callee, given)

/-- Reads a call in parentheses. A reference alone is the name of a
helper there. -/
def nested : Nat → Grammar Expr
  | 0 => failure
  | fuel + 1 => do
      exactly "("
      blanks
      let inner ← (do
          let (callee, given) ← application fuel
          return Expr.call callee given.positional given.options)
        <|> (do
          match ← reference with
          | .reference target => return Expr.call target.spelling [] []
          | _ => failure)
      sign ")"
      return inner

end

/-- Reads a call in parentheses or a reference. -/
def lone : Grammar Expr := do
  let size ← fuel
  nested (2 * size) <|> reference

/-- Reads a call or a lone value. -/
def expression : Grammar Tag := do
  let size ← fuel
  (do
    let (callee, given) ← application (2 * size)
    return .call callee given) <|> (Tag.value <$> lone)

/-- Reads the parameters of a block. -/
def parameters : Grammar (List String) := do
  sign "as"
  sign "|"
  blanks
  let first ← name
  let second ← maybe (blanks *> name)
  sign "|"
  return first :: second.toList

/-- Reads a name with any arguments. -/
def invocation : Grammar (String × Arguments) := do
  let callee ← name
  let size ← fuel
  return (callee, ← arguments (2 * size))

/-- Reads the head of a block. -/
def head (make : String → Arguments → List String → Tag) :
    Grammar Tag := do
  let (callee, given) ← invocation
  return make callee given ((← maybe parameters).getD [])

/-- Whether a character may stand in the name of a template. -/
def isTemplateChar (c : Char) : Bool :=
  (isNameChar c && c != '$' && c != ':')
    || c == '/' || c == '.' || c == '@'

/-- Splits a text at the first quote that has no backslash in front; the
quote belongs to the first part. -/
def splitAtQuote? : List Char → Option (List Char × List Char)
  | [] => none
  | '\'' :: rest => some (['\''], rest)
  | '\\' :: '\'' :: rest => do
      let (front, after) ← splitAtQuote? rest
      return ('\\' :: '\'' :: front, after)
  | c :: rest => do
      let (front, after) ← splitAtQuote? rest
      return (c :: front, after)

/-- Reads a name in quotes. The quotes belong to the name, and so do the
backslashes in front of quotes inside. -/
def quotedName : Grammar String := do
  exactly "'"
  match splitAtQuote? (← rest) with
  | some (text@(_ :: _ :: _), after) =>
      moveTo after
      return String.ofList ('\'' :: text)
  | _ => failure

/-- Reads the name of a template. A reference is taken by its
spelling. -/
def templateName : Grammar TemplateName :=
  (do return .fixed (String.ofList (← word isTemplateChar)))
    <|> (TemplateName.fixed <$> quotedName)
    <|> (do
      match ← lone with
      | .reference target => return .fixed target.spelling
      | e => return .computed e)

/-- Reads an inclusion behind its mark. -/
def included (make : TemplateName → Arguments → Tag) : Grammar Tag := do
  blanks
  let callee ← templateName
  let size ← fuel
  return make callee (← arguments (2 * size))

-- =============================================================== tags

/-- Reads a tag between given braces, with tildes on either side. -/
def between (opening closing : String) (inner : Grammar Tag) :
    Grammar Markup := do
  exactly opening
  let trimBefore ← present (sign "~")
  blanks
  let tag ← inner
  let trimAfter ← present (sign "~")
  sign closing
  return ⟨tag, trimBefore, trimAfter, (← get).sound⟩

/-- Reads a tag between two braces. -/
def inBraces (inner : Grammar Tag) : Grammar Markup :=
  between "\x7b\x7b" "\x7d\x7d" inner

/-- Reads the separator of two bodies. -/
def elseMark : Grammar Unit := exactly "else" <|> exactly "^"

/-- Reads an end of block behind its slash. Which names may stand there
depends on what is ended. -/
def closing : Grammar Tag := do
  blanks
  let called ← quotedName <|> do
    return String.ofList
      (← run fun c => isNameChar c || isTemplateChar c)
  return .blockEnd called

/-- Splits a text at the first occurrence of a mark; the mark is in
neither part. -/
def splitAt? (mark : List Char) :
    List Char → Option (List Char × List Char)
  | [] => if mark.isEmpty then some ([], []) else none
  | c :: rest =>
      if mark.isPrefixOf (c :: rest) then
        some ([], (c :: rest).drop mark.length)
      else do
        let (before, after) ← splitAt? mark rest
        return (c :: before, after)

/-- Reads a comment up to a mark. -/
def commentUpTo (mark : String) : Grammar Unit := do
  match splitAt? mark.toList (← rest) with
  | some (_, after) => moveTo after
  | none => failure

/-- Reads a comment. Between dashes it may hold braces. There is no
tilde at its start, and one at its end is part of it. -/
def commentTag : Grammar Markup := do
  exactly "\x7b\x7b"
  sign "!"
  (sign "--" *> commentUpTo "--\x7d\x7d") <|> commentUpTo "\x7d\x7d"
  return ⟨.comment, false, false, true⟩

/-- Reads a value between three braces. The tildes may stand on either
side of the inner ones. -/
def tripleBraces : Grammar Markup :=
  between "\x7b\x7b\x7b" "\x7d\x7d\x7d" expression
    <|> inBraces do
      exactly "\x7b"
      blanks
      let tag ← expression
      sign "\x7d"
      return tag

/-- Reads any tag but those of a block of plain text. -/
def ordinary : Grammar Markup :=
  inBraces (elseMark *> pure .otherwise)
    <|> inBraces (elseMark *> blanks *> head .otherwiseBlock)
    <|> inBraces expression
    <|> tripleBraces
    <|> inBraces (exactly "&" *> blanks *> (Tag.value <$> lone))
    <|> inBraces (exactly "#" *> blanks *> head .blockStart)
    <|> commentTag
    <|> inBraces (exactly "*" *> blanks *> head fun callee given _ =>
          .decorator callee given)
    <|> inBraces (exactly "#" *> sign "*" *> blanks *>
          head fun callee given _ => .decoratorStart callee given)
    <|> inBraces (exactly ">" *> included .inclusion)
    <|> inBraces (exactly "#" *> sign ">" *> included .inclusionStart)
    <|> inBraces (exactly "/" *> closing)

/-- Reads a tag between four braces. -/
def inFourBraces (inner : Grammar Tag) : Grammar Markup :=
  between "\x7b\x7b\x7b\x7b" "\x7d\x7d\x7d\x7d" inner

/-- Reads the start of a block of plain text. -/
def rawOpening : Grammar Markup := inFourBraces (head .rawStart)

/-- Reads the end of a block of plain text. -/
def rawClosing : Grammar Markup :=
  inFourBraces (exactly "/" *> blanks *> (Tag.rawEnd <$> name))

/-- Reads any tag that may follow text. -/
def any : Grammar Markup := ordinary <|> rawOpening

/-- Reads a tag from the front of a text. -/
def read? (g : Grammar Markup) (text : List Char) :
    Option (Markup × List Char) :=
  (StateT.run g ⟨text, true⟩).map fun (markup, input) =>
    (markup, input.rest)

end Tag

end SchemaPress.Template
