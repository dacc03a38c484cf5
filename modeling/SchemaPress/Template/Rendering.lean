/-
Rendering: from a template and data to text.

Every element of a template yields a text, and a body the texts of its
elements one after the other. What an element yields depends on its
setting (the scope, and what may be included there) and on the progress
made so far.

# Progress

Some things pass from one element to the next: the templates that the
template has declared inside itself, the template that is being rendered,
and where in a line the result stands. The last matters only where an
inclusion is indented: there each line of text gets the indentation in
front. The first line gets it if it is due, which it is at the start of a
line. A block on a line of its own decides for its body whether that is
so, and a block that writes nothing leaves all as it was.

# Inclusions

An inclusion renders another template in its place, inside one more block
over its argument; named arguments become fields of the base, and
parameters as well. The body that an inclusion brings is rendered first,
once, and the other template can put the result where it wants.

Templates can include each other, so rendering recurses beyond the
structure of one template, and there are templates for which it never
ends. A limit on how many inclusions are open at a time makes an error of
that. What does come to an end is not to meet the limit, however long the
chain of templates is, so it is set far above any chain that fits on the
stack of a machine (`inclusionLimit`).
-/
import SchemaPress.Template.Helper

namespace SchemaPress.Template

-- ============================================================ setting

/-- What the elements of a body are rendered in. -/
structure Setting where
  scope : Scope
  /-- The templates that can be included by name. -/
  templates : Fields Template
  /-- The text of the body that the inclusion around has brought. -/
  content : Option String
  /-- What each line starts with. -/
  indent : String

/-- How far the rendering is. -/
structure Progress where
  /-- The templates declared inside the template. -/
  inlines : Fields Template
  /-- The name of the template whose elements these are; nothing inside
  a body, nor behind it. -/
  current : Option String
  /-- Whether the last text written has ended a line. -/
  atLineStart : Bool
  /-- Whether the next text starts with the indentation. -/
  indentDue : Bool
  /-- Whether text has been written since the block around began. -/
  wrote : Bool

/-- The progress at the start of a template. -/
def Progress.start (name : String) : Progress :=
  ⟨[], some name, false, false, false⟩

/-- A step of rendering. -/
abbrev Rendering := StateT Progress (Except RenderError)

/-- The setting inside one more block. -/
def Setting.enter (block : Block) (s : Setting) : Setting :=
  { s with scope := s.scope.enter block }

namespace Rendering

/-- Renders elements that go by a name, or by none. -/
def named (name : Option String) (rendering : Rendering String) :
    Rendering String := do
  modify fun progress => { progress with current := name }
  rendering

/-- Renders something that keeps to itself the templates it declares. -/
def enclosed (rendering : Rendering String) : Rendering String := do
  let inlines := (← get).inlines
  let text ← rendering
  modify fun progress => { progress with inlines }
  return text

/-- Renders an inclusion. Behind it the template around goes on. -/
def aside (rendering : Rendering String) : Rendering String := do
  let current := (← get).current
  let text ← enclosed rendering
  modify fun progress => { progress with current }
  return text

/-- Renders something with a say about the indentation. If it writes
nothing, all is as before. -/
def onLine (due : Progress → Bool) (rendering : Rendering String) :
    Rendering String := do
  let before ← get
  set { before with indentDue := due before, wrote := false }
  let text ← rendering
  modify fun after =>
    if after.wrote then { after with indentDue := after.atLineStart }
    else
      { after with wrote := before.wrote, indentDue := before.indentDue }
  return text

/-- Renders a block, which may have a line to itself. -/
def ofBlock (alone : Bool) : Rendering String → Rendering String :=
  onLine fun before =>
    before.indentDue || (alone && before.atLineStart)

/-- Renders an inclusion, which may have an indented line to itself. -/
def ofInclusion (alone : Bool) (indent : String) :
    Rendering String → Rendering String :=
  onLine fun before => alone && (before.atLineStart || !indent.isEmpty)

end Rendering

-- ============================================================ writing

/-- Whether a character ends a line of the result. -/
def endsLine (c : Char) : Bool := c == '\n' || c == '\r'

/-- Text with an indentation behind each line feed, except at the end. -/
def indented (indent : List Char) : List Char → List Char
  | [] => []
  | ['\n'] => ['\n']
  | '\n' :: rest => '\n' :: indent ++ indented indent rest
  | c :: rest => c :: indented indent rest

/-- Writes text with the indentation of the setting. -/
def write (s : Setting) (text : String) : Rendering String := do
  let chars := text.toList
  match chars.head?, chars.getLast? with
  | some first, some last =>
      let front := if (← get).indentDue && !endsLine first then
        s.indent.toList else []
      modify fun progress =>
        { progress with
          atLineStart := endsLine last
          indentDue := endsLine last
          wrote := true }
      return String.ofList (front ++ indented s.indent.toList chars)
  | _, _ => return ""

-- ======================================================== expressions

namespace Expr

mutual

/-- What an expression yields in a scope. -/
def evaluate (s : Scope) : Expr → Except RenderError Found
  | .literal value => return .ofValue value
  | .reference target => s.resolve target
  | .call name arguments options => do
      let positional ← evaluateAll s arguments
      let options ← evaluateOptions s options
      match Helper.ofName? name with
      | some helper =>
          return .ofValue
            (← helper.value ⟨positional, Fields.ofList options⟩)
      | none => throw (.helperNotFound name)

/-- What expressions yield, in order. -/
def evaluateAll (s : Scope) :
    List Expr → Except RenderError (List Found)
  | [] => return []
  | e :: rest => do
      let found ← evaluate s e
      return found :: (← evaluateAll s rest)

/-- What named expressions yield, in order. -/
def evaluateOptions (s : Scope) : List (String × Expr) →
    Except RenderError (List (String × Found))
  | [] => return []
  | (name, e) :: rest => do
      let found ← evaluate s e
      return (name, found) :: (← evaluateOptions s rest)

end

end Expr

/-- What arguments amount to in a scope. Of two values for one name the
last counts. -/
def Arguments.evaluate (s : Scope) (arguments : Arguments) :
    Except RenderError Given := do
  let positional ← Expr.evaluateAll s arguments.positional
  let options ← Expr.evaluateOptions s arguments.options
  return ⟨positional, Fields.ofList options⟩

/-- The helper with a name; an error if there is none. -/
def helperNamed (name : String) : Except RenderError Helper :=
  match Helper.ofName? name with
  | some helper => .ok helper
  | none => .error (.helperNotFound name)

/-- Writes what a helper yields as a value, without regard to lines. -/
def writeHelper (helper : Helper) (given : Given) :
    Rendering String := do
  return shown (← helper.value given)

/-- Writes a lone value. A name that is a helper's calls the helper. -/
def writeValue (s : Setting) (e : Expr) : Rendering String := do
  let name ← match e with
    | .reference target => pure target.spelling
    | e => pure (← e.evaluate s.scope).shown
  match Helper.ofName? name with
  | some helper => writeHelper helper ⟨[], []⟩
  | none => write s (← e.evaluate s.scope).shown

-- ============================================================= blocks

namespace Block

/-- The parameters of a block over a base with one key. -/
def bindings (names : List String) (binding : Binding)
    (key : Option Json) : Fields Binding :=
  match names, key with
  | [name], _ => [(name, binding)]
  | [name, keyName], some key =>
      Fields.ofList [(name, binding), (keyName, .value key)]
  | _, _ => []

/-- The local variables for one item out of many. -/
def itemLocals (position count : Nat) (key : Option String) :
    Fields Json :=
  [("first", .bool (position = 0)),
    ("last", .bool (position + 1 = count))]
    ++ (key.map fun name => ("key", Json.string name)).toList
    ++ [("index", .number (.whole position))]

/-- The block over one item of a collection. -/
def ofItem (names : List String) (collection : Found) (count : Nat)
    (position : Nat) (name : Option String) (item : Json) : Block :=
  let place : Json := match name with
    | some name => .string name
    | none => .number (.whole position)
  let locals := itemLocals position count name
  match collection.way? with
  | some way =>
      { ofWay (way ++ [name.getD (toString position)]) with
        locals, parameters := bindings names .here (some place) }
  | none =>
      { ofWay [] with
        value? := some item
        locals, parameters := bindings names (.value item) (some place) }

/-- Numbers the members of a list from a position on. -/
def numbered {α : Type} (start : Nat) : List α → List (Nat × α)
  | [] => []
  | x :: rest => (start, x) :: numbered (start + 1) rest

/-- The blocks over the items of a collection, in order. -/
def ofItems (names : List String) (collection : Found) : List Block :=
  match collection.json with
  | .array items =>
      (numbered 0 items).map fun (i, item) =>
        ofItem names collection items.length i none item
  | .object fields =>
      (numbered 0 fields).map fun (i, name, item) =>
        ofItem names collection fields.length i (some name) item
  | _ => []

/-- The block over another base. The local variables around stay in
sight. -/
def ofBase (names : List String) (base : Found) (s : Scope) : Block :=
  let around := match s.blocks with
    | block :: _ => block.locals
    | [] => []
  let binding : Binding := match base.way? with
    | some _ => .here
    | none => .value base.json
  { ofFound base with
    locals := around
    parameters := bindings names binding none }

end Block

/-- Renders a body once for each block. -/
def forEach (blocks : List Block) (body : Block → Rendering String) :
    Rendering String := do
  match blocks with
  | [] => return ""
  | block :: rest =>
      let text ← body block
      return text ++ (← forEach rest body)

-- ========================================================= decorators

/-- Carries out a decorator. -/
def decorate (s : Setting) (name : String) (arguments : Arguments)
    (body : Option Template) : Rendering Unit := do
  let given ← arguments.evaluate s.scope
  if name = "inline" then
    match (← given.get name 0).json, body with
    | .string name, some body =>
        modify fun progress =>
          { progress with inlines := progress.inlines.insert name body }
    | _, _ => throw .illFormedInline
  else throw (.decoratorNotFound name)

-- ========================================================= inclusions

/-- The name of the body of the inclusion around. -/
def bodyName : String := "@partial-block"

/-- Adds fields to a value. The items of an array and the characters of a
text become fields by their positions; other values have none. -/
def withFields (added : Fields Json) (value : Json) : Json :=
  let position : Nat × Json → String × Json :=
    fun (i, item) => (toString i, item)
  let base : Fields Json := match value with
    | .object fields => fields
    | .array items => (Block.numbered 0 items).map position
    | .string s =>
        (Block.numbered 0 s.toList).map fun (i, c) =>
          position (i, .string (String.singleton c))
    | _ => []
  .object (added.foldl
    (fun fields entry => Fields.insert entry.1 entry.2 fields) base)

/-- The scope of an included template: one more block, over the first
argument or else over the same base. Named arguments are fields of the
base and parameters of the block. -/
def Scope.ofInclusion (given : Given) (s : Scope) :
    Except RenderError Scope := do
  let around := s.blocks.head?.getD (.ofWay [])
  let block := match given.positional with
    | found :: _ => Block.ofFound found
    | [] => around
  let block := { block with locals := around.locals, parameters := [] }
  if given.options.isEmpty then return s.enter block
  let fields := Fields.mapValues Found.json given.options
  let base ← s.fromBase (some block) []
  return s.enter { block with
    value? := some (withFields fields base.json)
    parameters := Fields.mapValues Binding.value fields }

/-- The name of a template in a scope. -/
def TemplateName.evaluate (s : Scope) :
    TemplateName → Except RenderError String
  | .fixed name => return name
  | .computed e => return (← e.evaluate s).shown

/-- Renders what a name stands for in an inclusion: a body, a template
declared inside the template, or one of the others; failing these, the
inclusion's own body. `render` renders the elements of a template, and
`content` is the text of the inclusion's body. -/
def includeTemplate (render : Setting → Template → Rendering String)
    (s : Setting) (name indent : String) (content : Option String) :
    Rendering String := do
  if name = bodyName then
    match s.content.or content with
    | some text => return text
    | none => throw .noBody
  else
    let inner := { s with content, indent := s.indent ++ indent }
    match (← get).inlines.get? name, s.templates.get? name, content with
    | some found, _, _ => Rendering.named none (render inner found)
    | none, some found, _ =>
        Rendering.named (some name) (render inner found)
    | none, none, some text => return text
    | none, none, none => throw (.templateNotFound name)

-- ========================================================== rendering

mutual

/-- Renders an element; `render` renders included templates. -/
def Element.render (render : Setting → Template → Rendering String)
    (s : Setting) : Element → Rendering String
  | .text text => write s text
  | .value e => writeValue s e
  | .call name arguments => do
      let given ← arguments.evaluate s.scope
      writeHelper (← helperNamed name) given
  | .block name arguments parameters alone body otherwise => do
      let given ← arguments.evaluate s.scope
      let helper ← helperNamed name
      let first := fun s => Rendering.named none (renderAll render s body)
      let other := do
        return (← renderOwn render s otherwise).getD ""
      Rendering.ofBlock alone do
        match helper with
        | .choice negated =>
            if ← Helper.chooses negated given then first s else other
        | .test question =>
            if ← question.answer given then first s else other
        | .each =>
            let collection ← given.get Helper.each.name 0
            match Block.ofItems parameters collection with
            | [] => other
            | blocks =>
                Rendering.enclosed
                  (forEach blocks fun block => first (s.enter block))
        | .rebase =>
            let base ← given.get Helper.rebase.name 0
            if base.json.isTruthy false then
              let block := Block.ofBase parameters base s.scope
              Rendering.enclosed (first (s.enter block))
            else other
        | .plain => first s
        | helper => writeHelper helper given
  | .decorator name arguments body => do
      decorate s name arguments body
      return ""
  | .inclusion name arguments alone indent body => do
      let name ← name.evaluate s.scope
      let given ← arguments.evaluate s.scope
      Rendering.ofInclusion alone indent <| Rendering.aside do
        if (← get).current = some name then throw (.selfInclusion name)
        let s := { s with scope := ← s.scope.ofInclusion given }
        let content ← renderOwn render s body
        includeTemplate render s name indent content

/-- Renders the elements of a body. -/
def renderAll (render : Setting → Template → Rendering String)
    (s : Setting) : List Element → Rendering String
  | [] => return ""
  | element :: rest => do
      let text ← element.render render s
      return text ++ (← renderAll render s rest)

/-- Renders a body, if there is one. -/
def renderOwn (render : Setting → Template → Rendering String)
    (s : Setting) : Option (List Element) → Rendering (Option String)
  | none => return none
  | some body => some <$> Rendering.named none (renderAll render s body)

end

/-- How deep inclusions may nest. The limit is there for those that never
end. -/
def inclusionLimit : Nat := 100000

/-- Renders a template with a number of inclusions inside each other. -/
def renderWithin : Nat → Setting → Template → Rendering String
  | 0, _, _ => throw .endlessInclusion
  | depth + 1, s, template => renderAll (renderWithin depth) s template

/-- Renders a template over data. It goes by a name, and others can be
included. -/
def render (name : String) (templates : Fields Template)
    (template : Template) (data : Json) : Except RenderError String :=
  let setting : Setting :=
    { scope := .ofData data, templates, content := none, indent := "" }
  (renderWithin inclusionLimit setting template).run' (.start name)

end SchemaPress.Template
