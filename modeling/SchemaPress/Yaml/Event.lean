/-
Events: a document as a bracketed sequence. A collection is an opening
event, the events of its members, and a closing event; everything that
the layout may leave out (an empty value, the key mark, the collection
around a single pair in brackets) has been supplied.

# Reading

What is still expected is a stack of goals. The goal on top looks at the
next token or two, reads at most a few, writes at most one event and
leaves the goals for what must follow. Every goal that reads nothing
stands between two that do, so a fixed number of steps per token is
enough.

A stream holds one document. Directives come before it and are settled
first: a version must be 1.1 or 1.2, and no handle is defined twice.
-/
import SchemaPress.Yaml.Token

namespace SchemaPress.Yaml

/-- What precedes the content of a node. -/
structure Properties where
  anchor : Option String
  tag : Option (List UInt8)
  deriving DecidableEq, Repr

/-- A unit of a document. -/
inductive Event where
  | alias (name : String)
  | scalar (properties : Properties) (text : String) (plain : Bool)
  | sequenceStart (properties : Properties)
  | sequenceEnd
  | mappingStart (properties : Properties)
  | mappingEnd
  deriving DecidableEq, Repr

namespace Event

/-- A node without anything: an empty plain scalar. -/
def empty : Event := .scalar ⟨none, none⟩ "" true

/-- What is expected next. -/
inductive Goal where
  /-- A node; a block collection or a sequence without indentation only
  where they are allowed. -/
  | node (block indentless : Bool)
  | blockItem
  | indentlessItem
  | blockKey
  | blockValue
  | flowItem (first : Bool)
  | pairKey
  | pairValue
  | pairEnd
  | flowKey (first : Bool)
  | flowValue (absent : Bool)

/-- A step of reading: the tokens left, the event written, and the goals
that take the place of the one on top. -/
structure Step where
  tokens : List Token
  event : Option Event
  goals : List Goal

/-- Writes an event and goes on. -/
def write (event : Event) (tokens : List Token)
    (goals : List Goal) : Option Step :=
  some ⟨tokens, some event, goals⟩

/-- Writes nothing and goes on. -/
def skip (tokens : List Token) (goals : List Goal) : Option Step :=
  some ⟨tokens, none, goals⟩

-- ============================================================== nodes

/-- What the handles of tags stand for. -/
abbrev Handles := List (String × List UInt8)

/-- The whole of a tag. A tag without a handle is whole already. -/
def wholeTag? (handles : Handles) (handle : String)
    (suffix : List UInt8) : Option (List UInt8) :=
  if handle.isEmpty then some suffix
  else (handles.lookup handle).map (· ++ suffix)

/-- Reads an anchor and a tag, in either order. -/
def properties? (handles : Handles) :
    List Token → Option (Properties × List Token)
  | .anchor name :: .tag handle suffix :: rest
  | .tag handle suffix :: .anchor name :: rest => do
      return (⟨some name, some (← wholeTag? handles handle suffix)⟩, rest)
  | .anchor name :: rest => some (⟨some name, none⟩, rest)
  | .tag handle suffix :: rest => do
      return (⟨none, some (← wholeTag? handles handle suffix)⟩, rest)
  | rest => some (⟨none, none⟩, rest)

/-- Reads the content of a node, which may be missing behind an anchor
or a tag. -/
def content? (block indentless : Bool) (p : Properties) :
    List Token → Option Step
  | tokens@(token :: rest) =>
      match token with
      | .blockEntry =>
          if indentless then
            write (.sequenceStart p) tokens [.indentlessItem]
          else absent tokens
      | .scalar text plain =>
          write (.scalar p text plain) rest []
      | .flowSequenceStart =>
          write (.sequenceStart p) rest [.flowItem true]
      | .flowMappingStart =>
          write (.mappingStart p) rest [.flowKey true]
      | .blockSequenceStart =>
          if block then write (.sequenceStart p) rest [.blockItem]
          else absent tokens
      | .blockMappingStart =>
          if block then write (.mappingStart p) rest [.blockKey]
          else absent tokens
      | _ => absent tokens
  | [] => absent []
where
  absent (tokens : List Token) : Option Step :=
    if p.anchor.isSome || p.tag.isSome then
      write (.scalar p "" true) tokens []
    else none

/-- Reads a node. -/
def node? (handles : Handles) (block indentless : Bool) :
    List Token → Option Step
  | .alias name :: rest => write (.alias name) rest []
  | tokens => do
      let (p, rest) ← properties? handles tokens
      content? block indentless p rest

-- ============================================================== goals

/-- Expects a node unless one of the tokens that end it comes first; then
the node is empty. -/
def optional (block indentless : Bool) (ends : List Token)
    (tokens : List Token) (goal : Goal) : Option Step :=
  if tokens.head?.any ends.contains then write empty tokens [goal]
  else skip tokens [.node block indentless, goal]

/-- Takes the step that a goal asks for. -/
def step? (handles : Handles) : Goal → List Token → Option Step
  | .node block indentless, tokens =>
      node? handles block indentless tokens
  | .blockItem, .blockEntry :: rest =>
      optional true false [.blockEntry, .blockEnd] rest .blockItem
  | .blockItem, .blockEnd :: rest => write .sequenceEnd rest []
  | .blockItem, _ => none
  | .indentlessItem, .blockEntry :: rest =>
      optional true false [.blockEntry, .key, .value, .blockEnd] rest
        .indentlessItem
  | .indentlessItem, tokens => write .sequenceEnd tokens []
  | .blockKey, .key :: rest =>
      optional true true [.key, .value, .blockEnd] rest .blockValue
  | .blockKey, .blockEnd :: rest => write .mappingEnd rest []
  | .blockKey, _ => none
  | .blockValue, .value :: rest =>
      optional true true [.key, .value, .blockEnd] rest .blockKey
  | .blockValue, tokens => write empty tokens [.blockKey]
  | .flowItem first, tokens => do
      let tokens ← match first, tokens with
        | false, .flowEntry :: rest => some rest
        | false, .flowSequenceEnd :: _ => some tokens
        | false, _ => none
        | true, _ => some tokens
      match tokens with
      | .flowSequenceEnd :: rest => write .sequenceEnd rest []
      | .key :: rest =>
          write (.mappingStart ⟨none, none⟩) rest
            [.pairKey, .flowItem false]
      | _ => skip tokens [.node false false, .flowItem false]
  | .pairKey, tokens =>
      if tokens.head?.any [Token.value, .flowEntry, .flowSequenceEnd].contains
      then write empty (tokens.drop 1) [.pairValue]
      else skip tokens [.node false false, .pairValue]
  | .pairValue, .value :: rest =>
      optional false false [.flowEntry, .flowSequenceEnd] rest .pairEnd
  | .pairValue, tokens => write empty tokens [.pairEnd]
  | .pairEnd, tokens => write .mappingEnd tokens []
  | .flowKey first, tokens => do
      let tokens ← match first, tokens with
        | false, .flowEntry :: rest => some rest
        | false, .flowMappingEnd :: _ => some tokens
        | false, _ => none
        | true, _ => some tokens
      match tokens with
      | .flowMappingEnd :: rest => write .mappingEnd rest []
      | .key :: rest =>
          optional false false [.value, .flowEntry, .flowMappingEnd] rest
            (.flowValue false)
      | _ => skip tokens [.node false false, .flowValue true]
  | .flowValue true, tokens => write empty tokens [.flowKey false]
  | .flowValue false, .value :: rest =>
      optional false false [.flowEntry, .flowMappingEnd] rest
        (.flowKey false)
  | .flowValue false, tokens => write empty tokens [.flowKey false]

/-- Takes steps until no goal is left. The events come out latest
first. -/
def run? (handles : Handles) :
    Nat → List Goal → List Token → List Event →
      Option (List Event × List Token)
  | _, [], tokens, events => some (events, tokens)
  | 0, _, _, _ => none
  | fuel + 1, goal :: goals, tokens, events => do
      let s ← step? handles goal tokens
      run? handles fuel (s.goals ++ goals) s.tokens
        (s.event.toList ++ events)

-- =========================================================== documents

/-- The handles that mean something without a directive. -/
def standardHandles : Handles :=
  [("!", bytesOf "!"), ("!!", bytesOf "tag:yaml.org,2002:")]

/-- Reads directives: whether a version was given, the handles defined so
far, and the tokens behind. -/
def directives? (versioned : Bool) (handles : Handles) :
    List Token → Option (Handles × List Token)
  | .version major minor :: rest =>
      if !versioned && major == 1 && (minor == 1 || minor == 2) then
        directives? true handles rest
      else none
  | .tagDirective handle stem :: rest =>
      if (handles.lookup handle).isSome then none
      else directives? versioned (handles ++ [(handle, stem)]) rest
  | rest => some (handles ++ standardHandles, rest)

/-- Whether the content of a document is missing. -/
def contentMissing : List Token → Bool
  | [] => true
  | .version .. :: _ => true
  | .tagDirective .. :: _ => true
  | .documentStart :: _ => true
  | .documentEnd :: _ => true
  | _ => false

/-- Reads the one node of a document and what may follow it. -/
def root? (handles : Handles) (tokens : List Token) :
    Option (List Event) := do
  let fuel := 8 * (tokens.length + 1)
  let (events, rest) ← run? handles fuel [.node true false] tokens []
  if (rest.dropWhile (· == .documentEnd)).isEmpty then
    return events.reverse
  else none

/-- Reads a document behind its mark of start. -/
def marked? (handles : Handles) (tokens : List Token) :
    Option (List Event) :=
  if contentMissing tokens then
    if (tokens.dropWhile (· == .documentEnd)).isEmpty then some [empty]
    else none
  else root? handles tokens

/-- The events of the only document of a stream. An empty stream has
none. -/
def ofTokens? : List Token → Option (List Event)
  | [] => some []
  | tokens@(first :: rest) =>
      match first with
      | .documentStart => marked? standardHandles rest
      | .version .. | .tagDirective .. => do
          match ← directives? false [] tokens with
          | (handles, .documentStart :: rest) => marked? handles rest
          | _ => none
      | _ => root? standardHandles tokens

end Event

end SchemaPress.Yaml
