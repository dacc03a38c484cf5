/-
The nesting of a template: which tags belong together. Starts and ends of
blocks pair up like brackets, and what stands between them is the body of
the block.

# Names at the end

The end of a block repeats the name of its start. What ends a decorated
body or the body of an inclusion may do without.

# Faults

A template in which ends are missing, or left over, or separators stand
where no block has a second body, has no nesting at all. Where the
brackets do pair up, an end may still carry another name than its start,
and a literal may fail to spell a value; of these faults the first one in
the order of the source is the one that is reported.

# Chains

A separator with a call behind it starts a block inside the second body
of the block around it, and the one end closes them all.
-/
import SchemaPress.Template.Layout

namespace SchemaPress.Template

/-- Why a template is none. -/
inductive Fault where
  /-- Its tags cannot be read, or do not nest, or do not spell values. -/
  | malformed
  /-- The end of a block names another helper than its start. -/
  | helperMismatch (opened closed : String)
  /-- The end of a decorated body names another decorator than its
  start. -/
  | decoratorMismatch (opened closed : String)
  deriving DecidableEq, Repr

/-- What is known to be wrong, in words; nothing for a template that is
just malformed. -/
def Fault.message? : Fault → Option String
  | .malformed => none
  | .helperMismatch opened closed =>
      some s!"helper \"{opened}\" was opened, but \"{closed}\" is closing"
  | .decoratorMismatch opened closed =>
      some s!"decorator \"{opened}\" was opened, but \"{closed}\" is closing"

namespace Nesting

/-- The start of something with a body. -/
inductive Opening where
  /-- A block; `chained` if a separator started it, and with its first
  body once that has ended. -/
  | block (chained : Bool) (name : String) (arguments : Arguments)
      (parameters : List String) (alone : Bool) (body : Option Template)
  /-- A block of plain text. -/
  | plain (name : String) (arguments : Arguments)
      (parameters : List String) (alone : Bool)
  | decorator (name : String) (arguments : Arguments)
  | inclusion (name : TemplateName) (arguments : Arguments)
      (alone : Bool)

/-- A body that has not ended, and what stands before it. -/
structure Level where
  opening : Opening
  /-- The elements before the block. -/
  before : Template

/-- How far a template has been read. -/
structure State where
  /-- The elements of the innermost body. -/
  body : Template
  /-- The bodies that have not ended, innermost first. -/
  levels : List Level
  /-- The first fault so far. -/
  fault : Option Fault

/-- The start of a template. -/
def State.start : State := ⟨[], [], none⟩

/-- Adds an element to the innermost body. -/
def State.add (element : Element) (s : State) : State :=
  { s with body := s.body ++ [element] }

/-- Reports a fault, unless there is an earlier one. -/
def State.report (fault : Fault) (s : State) : State :=
  { s with fault := s.fault.or (some fault) }

/-- Starts a body. -/
def State.open (opening : Opening) (s : State) : State :=
  { s with body := [], levels := ⟨opening, s.body⟩ :: s.levels }

/-- Ends a body; `element` takes its place in the body around it. -/
def State.close (before : Template) (levels : List Level)
    (element : Element) (s : State) : State :=
  { s with body := before ++ [element], levels }

/-- Reports a name at the end that is not the name at the start. -/
def State.compare (fault : String → String → Fault)
    (opened closed : String) (s : State) : State :=
  if opened = closed then s else s.report (fault opened closed)

/-- A block with the bodies found for it: an ended first body and the
present one, or the present one alone. -/
def blockOf (name : String) (arguments : Arguments)
    (parameters : List String) (alone : Bool) (body : Option Template)
    (present : Template) : Element :=
  match body with
  | some body =>
      .block name arguments parameters alone body (some present)
  | none => .block name arguments parameters alone present none

/-- Ends a chain of blocks, given the present body. Yields the block that
started the chain, with its name and what is around it; nothing if the
innermost level is no block. -/
def closeChain? (present : Template) : List Level →
    Option (String × Element × Template × List Level)
  | ⟨.block chained name arguments parameters alone body, before⟩
      :: levels =>
      let element := blockOf name arguments parameters alone body present
      if chained then closeChain? (before ++ [element]) levels
      else some (name, element, before, levels)
  | _ => none

/-- Whether a text can name a helper or a decorator. -/
def isName (text : String) : Bool := text.toList.all isNameChar

/-- Whether a text can name a template. -/
def isTemplateName (text : String) : Bool :=
  text.startsWith "'" || text.toList.all Tag.isTemplateChar

/-- Compares a name at the end with that of a template at the start. Only
a fixed name can be repeated. -/
def State.compareTemplate (opened : TemplateName) (closed : String)
    (s : State) : State :=
  if closed.isEmpty then s
  else
    match opened with
    | .fixed opened => s.compare .decoratorMismatch opened closed
    | .computed _ => s.report .malformed

/-- Ends the innermost body by a tag with a name; nothing if the name
cannot end it. -/
def State.close? (name : String) (s : State) : Option State :=
  match s.levels with
  | ⟨.block _ _ _ _ _ _, _⟩ :: _ =>
      if isName name then do
        let (opened, element, before, levels) ←
          closeChain? s.body s.levels
        return (s.close before levels element).compare
          .helperMismatch opened name
      else none
  | ⟨.decorator opened arguments, before⟩ :: levels =>
      if isName name then
        let s := s.close before levels
          (.decorator opened arguments (some s.body))
        some (if name.isEmpty then s
          else s.compare .decoratorMismatch opened name)
      else none
  | ⟨.inclusion opened arguments alone, before⟩ :: levels =>
      if isTemplateName name then
        let s := s.close before levels
          (.inclusion opened arguments alone "" (some s.body))
        some (s.compareTemplate opened name)
      else none
  | _ => none

/-- Ends the first body of the innermost block; nothing if there is no
block, or it is in its second body already. -/
def State.separate? (s : State) : Option State :=
  match s.levels with
  | ⟨.block chained name arguments parameters alone none, before⟩
      :: levels =>
      let opening : Opening :=
        .block chained name arguments parameters alone (some s.body)
      some { s with body := [], levels := ⟨opening, before⟩ :: levels }
  | _ => none

/-- Ends a block of plain text. -/
def State.closePlain? (name : String) (s : State) : Option State :=
  match s.levels with
  | ⟨.plain opened arguments parameters alone, before⟩ :: levels =>
      some ((s.close before levels
        (.block opened arguments parameters alone s.body none)).compare
        .helperMismatch opened name)
  | _ => none

/-- Reads a tag, given whether it is alone on its line and how far it is
indented; nothing if it cannot stand here. -/
def State.tag? (tag : Tag) (alone : Bool) (indent : String)
    (s : State) : Option State :=
  match tag with
  | .value value => some (s.add (.value value))
  | .call name arguments => some (s.add (.call name arguments))
  | .blockStart name arguments parameters =>
      some (s.open (.block false name arguments parameters alone none))
  | .rawStart name arguments parameters =>
      some (s.open (.plain name arguments parameters alone))
  | .rawEnd name => s.closePlain? name
  | .otherwise => s.separate?
  | .otherwiseBlock name arguments parameters => do
      let s ← s.separate?
      return s.open (.block true name arguments parameters alone none)
  | .decorator name arguments =>
      some (s.add (.decorator name arguments none))
  | .decoratorStart name arguments =>
      some (s.open (.decorator name arguments))
  | .inclusion name arguments =>
      some (s.add (.inclusion name arguments alone indent none))
  | .inclusionStart name arguments =>
      some (s.open (.inclusion name arguments alone))
  | .blockEnd name => s.close? name
  | .comment => some s

/-- Reads a part; nothing if it cannot stand here. -/
def State.part? (s : State) : Part → Option State
  | .text text =>
      some (if text.isEmpty then s else s.add (.text text))
  | .tag tag alone indent sound =>
      (if sound then s else s.report .malformed).tag? tag alone indent

/-- The nesting of a template's parts. -/
def ofParts (parts : List Part) : Except Fault Template :=
  match parts.foldlM State.part? State.start with
  | some ⟨body, [], none⟩ => .ok body
  | some ⟨_, [], some fault⟩ => .error fault
  | _ => .error .malformed

end Nesting

/-- Reads a template. -/
def ofSource (source : String) : Except Fault Template :=
  match Piece.ofSource? source with
  | some pieces => Nesting.ofParts (Layout.ofPieces pieces)
  | none => .error .malformed

end SchemaPress.Template
