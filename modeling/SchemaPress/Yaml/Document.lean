/-
Documents: from events to the tree they describe.

# Drafts

First the brackets are matched, which gives a draft: a tree whose leaves
may still be aliases. Then the aliases are replaced. An alias stands for
a whole subtree, so an alias inside its own anchor would be an infinite
tree; depth is limited to 128 collections, which refuses those, and the
number of replacements is limited in proportion to the document, which
refuses the ones that are merely enormous.

# Anchors

An anchor gets a number: how many different anchor names came before
it. An alias has the number of its name at that time and stands for the
last node that got this number, wherever in the document it is. Numbers
repeat when a name is used again, so this is not always the node that
the name was last given to.

# Tags

A tag that starts with an exclamation mark is kept with the node, by what
follows the mark; the lone mark is its own name. A tag that is no text
has no name, and the node is read as if the tag were not there.
-/
import SchemaPress.Yaml.Token.Reader
import SchemaPress.Yaml.Event
import SchemaPress.Yaml.Scalar.Meaning

namespace SchemaPress.Yaml

/-- A tree that may hold aliases, by the number of their anchor. -/
inductive Draft where
  | alias (number : Nat)
  | scalar (tag : Option (List UInt8)) (text : String) (plain : Bool)
  | sequence (tag : Option (List UInt8)) (items : List Draft)
  | mapping (tag : Option (List UInt8)) (entries : List (Draft × Draft))

namespace Draft

-- ============================================================= anchors

/-- Anchors as they are met. -/
structure Anchors where
  /-- The number of each name, the latest first. -/
  numbers : List (String × Nat)
  /-- How many different names there are. -/
  names : Nat
  /-- Numbers and the nodes that got them: which event started the node,
  the latest first. -/
  starts : List (Nat × Nat)
  /-- The finished nodes, by the event that started them. -/
  finished : List (Nat × Draft)

/-- Gives the node that starts at an event its anchor. -/
def Anchors.start (anchor : Option String) (event : Nat)
    (a : Anchors) : Anchors :=
  match anchor with
  | none => a
  | some name =>
      let known := (a.numbers.lookup name).isSome
      { a with
        numbers := (name, a.names) :: a.numbers
        names := if known then a.names else a.names + 1
        starts := (a.names, event) :: a.starts }

/-- Notes that the node that started at an event is finished. -/
def Anchors.finish (anchor : Option String) (event : Nat) (d : Draft)
    (a : Anchors) : Anchors :=
  if anchor.isSome then { a with finished := (event, d) :: a.finished }
  else a

/-- The node that a number stands for at the end. -/
def Anchors.target? (a : Anchors) (number : Nat) : Option Draft := do
  a.finished.lookup (← a.starts.lookup number)

-- ============================================================ brackets

/-- An open collection: its members so far, the latest first. -/
structure Frame where
  isMapping : Bool
  properties : Properties
  event : Nat
  members : List Draft

/-- Pairs up keys and values. -/
def pairs : List Draft → List (Draft × Draft)
  | key :: value :: rest => (key, value) :: pairs rest
  | _ => []

/-- The finished collection. -/
def Frame.close (frame : Frame) : Draft :=
  let members := frame.members.reverse
  if frame.isMapping then .mapping frame.properties.tag (pairs members)
  else .sequence frame.properties.tag members

/-- Adds a finished node to the innermost open collection, or keeps it
as the root. -/
def add (d : Draft) (frames : List Frame) : List Frame × Option Draft :=
  match frames with
  | frame :: rest =>
      ({ frame with members := d :: frame.members } :: rest, none)
  | [] => ([], some d)

/-- Matches the brackets of the events from number `event` on. -/
def build? : Nat → List Frame → Anchors → List Event →
    Option (Draft × Anchors)
  | _, _, _, [] => none
  | event, frames, anchors, e :: rest =>
      let finish (anchor : Option String) (start : Nat) (d : Draft)
          (frames : List Frame) (anchors : Anchors) :=
        let anchors := anchors.finish anchor start d
        match add d frames with
        | (frames, none) => build? (event + 1) frames anchors rest
        | (_, some root) => some (root, anchors)
      match e with
      | .alias name =>
          match anchors.numbers.lookup name with
          | some number => finish none event (.alias number) frames anchors
          | none => none
      | .scalar p text plain =>
          finish p.anchor event (.scalar p.tag text plain) frames
            (anchors.start p.anchor event)
      | .sequenceStart p =>
          build? (event + 1) (⟨false, p, event, []⟩ :: frames)
            (anchors.start p.anchor event) rest
      | .mappingStart p =>
          build? (event + 1) (⟨true, p, event, []⟩ :: frames)
            (anchors.start p.anchor event) rest
      | .sequenceEnd | .mappingEnd =>
          match frames with
          | frame :: frames =>
              finish frame.properties.anchor frame.event frame.close frames
                anchors
          | [] => none

-- =============================================================== nodes

/-- Reading drafts counts the aliases replaced and may fail. -/
abbrev Reading := StateT Nat Option

/-- What an alias stands for; any other draft stands for itself. -/
def replaced (limit : Nat) (anchors : Anchors) (d : Draft) :
    Reading Draft := do
  match d with
  | .alias number =>
      let count ← get
      if limit < count + 1 then failure
      set (count + 1)
      StateT.lift (anchors.target? number)
  | d => return d

/-- The name of a tag that is kept. -/
def tagName? (tag : Option (List UInt8)) : Option String :=
  match tag with
  | some (mark :: name) =>
      if Scalar.isMark mark then
        textOf? (if name.isEmpty then [mark] else name)
      else none
  | _ => none

/-- A node with its tag, if that is kept. -/
def named (tag : Option (List UInt8)) (node : Node) : Node :=
  match tagName? tag with
  | some name => .tagged name node
  | none => node

/-- The meaning of a scalar behind its tag. -/
def scalar? (tag : Option (List UInt8)) (text : String)
    (plain : Bool) : Option Node :=
  match tag, tagName? tag with
  | some tag, none => Scalar.tagged? tag text plain
  | _, _ => Scalar.untagged? text plain

/-- Reads a draft that may be nested `depth` deep. -/
def toNode (limit : Nat) (anchors : Anchors) :
    Nat → Draft → Reading Node
  | depth, d => do
      match ← replaced limit anchors d, depth with
      | .alias _, _ => failure
      | .scalar tag text plain, _ =>
          return named tag (← StateT.lift (scalar? tag text plain))
      | .sequence tag items, depth + 1 =>
          return named tag (.sequence
            (← items.mapM (toNode limit anchors depth)))
      | .mapping tag entries, depth + 1 =>
          let entries ← entries.mapM fun (key, value) => do
            let key ← toNode limit anchors depth key
            let value ← toNode limit anchors depth value
            return (key, value)
          if Node.distinctKeys entries then
            return named tag (.mapping entries)
          else failure
      | _, 0 => failure

end Draft

/-- How deep collections may be nested. -/
def Node.depthLimit : Nat := 128

/-- The tree that the events of a document describe. A document without
events is empty. -/
def Node.ofEvents? (events : List Event) : Option Node :=
  if events.isEmpty then some .null
  else do
    let (draft, anchors) ← Draft.build? 0 [] ⟨[], 0, [], []⟩ events
    let limit := events.length * 100
    let (node, _) ← (draft.toNode limit anchors depthLimit).run 0
    return node

/-- Reads a YAML document; nothing when the text is not one. -/
def Node.ofText? (text : String) : Option Node := do
  Node.ofEvents? (← Event.ofTokens? (← Token.ofText? text))

end SchemaPress.Yaml
