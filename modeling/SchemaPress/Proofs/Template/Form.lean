/-
Forms: templates for one model that only fill in what every model has.

A form is plain text with places in it: for the title, the description
and the names of the model, and for something that is repeated for each
of its properties, which is plain text with places again. Texts and
places come in any order and any number (`Item`).

The source of a form is a line (`Form.line`). That is where texts that
follow each other become one, since no reader can tell them apart
(`Spaced.ofItems`). What is left to say of a place is its tag, which is
read from its spelling (`PropertyPlace.mark`, `ModelField.mark`), and the
element that it is nested to. So the source of a form reads as its
elements (`Form.ofSource_source`).

What is repeated stands between the tags of a loop, and a loop over the
properties of a model is read like one over the models of a document
(`Loop`). So the source of a form can also be repeated for each model.
That is no form any more, but still a line (`Form.ofSource_repeated`).
-/
import SchemaPress.Proofs.Template.BuiltIn
import SchemaPress.Proofs.Template.OneLine

namespace SchemaPress.Template

-- =================================================================== items

/-- A text or a place. -/
inductive Item (α : Type) where
  | text (text : PlainText)
  | place (place : α)

/-- Texts and places one after the other, given what stands in each
place. -/
def Item.fill {α : Type} (value : α → String) : List (Item α) → String
  | [] => ""
  | .text t :: items => String.ofList t.chars ++ fill value items
  | .place p :: items => value p ++ fill value items

namespace Spaced

variable {α β γ : Type}

/-- Joins the texts between places. -/
def ofItems : List (Item α) → Spaced α
  | [] => ⟨.empty, []⟩
  | .text t :: items =>
      { ofItems items with lead := t.append (ofItems items).lead }
  | .place p :: items =>
      ⟨.empty, (p, (ofItems items).lead) :: (ofItems items).rest⟩

/-- Joining texts makes no difference to what stands there. -/
theorem flat_ofItems (value : α → String) (items : List (Item α)) :
    (ofItems items).flat PlainText.chars (fun p => (value p).toList)
      = (Item.fill value items).toList := by
  induction items with
  | nil => rfl
  | cons item items ih =>
      cases item with
      | text t =>
          rw [Item.fill, String.toList_append, String.toList_ofList, ← ih]
          exact List.append_assoc ..
      | place p =>
          rw [Item.fill, String.toList_append, ← ih]
          exact flat_cons ..

/-- Other places between the same texts. -/
def map (f : α → β) (s : Spaced α) : Spaced β :=
  ⟨s.lead, s.rest.map fun x => (f x.1, x.2)⟩

theorem flat_map (f : α → β) (ofText : PlainText → List γ)
    (ofPlace : β → List γ) (s : Spaced α) :
    (s.map f).flat ofText ofPlace
      = s.flat ofText fun p => ofPlace (f p) := by
  rw [flat, flat, map, List.flatMap_map]

/-- The elements of texts and places, given those of the places. -/
def elements (ofPlace : α → Element) (s : Spaced α) : Template :=
  s.flat PlainText.elements fun p => [ofPlace p]

/-- Texts and places add their elements if each place adds its own. -/
theorem nests {ofPlace : α → Element} {parts : α → List Part}
    (h : ∀ p, Nests (parts p) [ofPlace p]) (s : Spaced α) :
    Nests (s.flat PlainText.parts parts) (s.elements ofPlace) := by
  obtain ⟨t, rest⟩ := s
  unfold elements
  induction rest generalizing t with
  | nil => exact t.nests.append nests_nil
  | cons first rest ih =>
      obtain ⟨p, u⟩ := first
      rw [flat_cons, flat_cons]
      exact t.nests.append ((h p).append (ih u))

end Spaced

-- =================================================================== loops

/-- How a tag is spelled. -/
def tagged (inside : String) : String :=
  "\x7b\x7b" ++ inside ++ "\x7d\x7d"

theorem Mark.source_eq (m : Mark) :
    m.source = (tagged m.inside).toList := by
  rw [tagged, String.toList_append, String.toList_append,
    List.append_assoc]
  rfl

/-- What a template can go through item by item: the properties of a
model, or the models of a document. -/
inductive Loop where
  | properties
  | models

namespace Loop

variable {β : Type}

def name : Loop → String
  | .properties => "properties"
  | .models => "models"

/-- A source that is repeated for each item. -/
def source (inner : String) (l : Loop) : String :=
  tagged ("#each " ++ l.name) ++ inner ++ tagged "/each"

/-- A body that is repeated for each item. -/
def element (body : Template) (l : Loop) : Element :=
  .block "each" ⟨[.reference (.plain l.name [l.name])], []⟩ [] false body
    none

theorem names (l : Loop) (rest : List Char) :
    Tag.Names (.plain l.name [l.name])
      (l.name.toList ++ '}' :: '}' :: rest) ('}' :: '}' :: rest) where
  blanks := by cases l <;> rfl
  option := by
    intro n
    cases n <;> cases l <;> rfl
  keyword := by cases l <;> rfl
  literal := by cases l <;> rfl
  reference := by
    refine Reference.ofChars?_eq _ String.ofList_toList.symm ?_
    cases l <;> rfl

/-- The tag at the start. -/
def opening (l : Loop) : Mark where
  inside := "#each " ++ l.name
  tag := .blockStart "each" ⟨[.reference (.plain l.name [l.name])], []⟩ []
  basic := rfl
  reads := by
    intro rest
    rw [String.toList_append, List.append_assoc]
    exact Tag.read?_start rfl rfl (l.names rest)

/-- The tag at the end. -/
def closing : Mark where
  inside := "/each"
  tag := .blockEnd "each"
  basic := rfl
  reads := fun _ => rfl

/-- The tags of a loop around a line, with the text behind. -/
def marks (body : Line) (t : PlainText) (l : Loop) :
    List (Mark × PlainText) :=
  (l.opening, body.lead) :: (body.rest ++ [(closing, t)])

/-- What becomes of a loop, given what becomes of tags and of what is
inside. -/
def flat (ofMark : Mark → List β) (inner : List β) (l : Loop) : List β :=
  ofMark l.opening ++ (inner ++ ofMark closing)

theorem flatMap_marks (ofText : PlainText → List β)
    (ofMark : Mark → List β) (body : Line) (t : PlainText) (l : Loop) :
    (l.marks body t).flatMap (fun x => ofMark x.1 ++ ofText x.2)
      = l.flat ofMark (body.flat ofText ofMark) ++ ofText t := by
  simp [marks, flat, Spaced.flat]

theorem flat_source (inner : String) (l : Loop) :
    l.flat Mark.source inner.toList = (l.source inner).toList := by
  rw [flat, Mark.source_eq, Mark.source_eq, source, String.toList_append,
    String.toList_append, List.append_assoc]
  rfl

/-- Between the tags of a loop stands its body. -/
theorem nests {parts : List Part} {body : Template} (h : Nests parts body)
    (l : Loop) :
    Nests (l.flat Mark.parts parts) [l.element body] :=
  h.block (by decide) _ _

/-- A loop has an end, so its start is not alone. -/
theorem crowded_marks (body : Line) (t : PlainText) (l : Loop)
    (more : List (Mark × PlainText)) :
    Layout.Crowded (l.marks body t ++ more) := by
  intro _
  simp

end Loop

-- ================================================================== places

/-- What a form can say of a property. -/
inductive PropertyPlace where
  | key
  | description
  | type (language : Language)

namespace PropertyPlace

def inside : PropertyPlace → String
  | .key => "@key"
  | .description => "this.description"
  | .type language => language.helper ++ " this"

def tag : PropertyPlace → Tag
  | .key => .value (.reference .key)
  | .description =>
      .value (.reference (.plain "this.description" ["description"]))
  | .type language =>
      .call language.helper ⟨[.reference (.plain "this" [])], []⟩

def element : PropertyPlace → Element
  | .key => Language.keySlot
  | .description => Language.slot "this.description" "description"
  | .type language => language.typeSlot

theorem reads (p : PropertyPlace) (rest : List Char) :
    Tag.read? Tag.any
        ('{' :: '{' :: (p.inside.toList ++ '}' :: '}' :: rest))
      = some (⟨p.tag, false, false, true⟩, rest) := by
  cases p with
  | key =>
      have hkey : Reference.ofChars? ("@key".toList ++ '}' :: '}' :: rest)
          = some (.key, '}' :: '}' :: rest) :=
        Reference.ofChars?_eq .key rfl rfl
      exact Tag.read?_value ⟨rfl, rfl⟩ rfl (fun n => by cases n <;> rfl)
        (fun n => by cases n <;> rfl) hkey
  | description =>
      have hfield : Reference.ofChars?
            ("this.description".toList ++ '}' :: '}' :: rest)
          = some (.plain "this.description" ["description"],
              '}' :: '}' :: rest) :=
        Reference.ofChars?_eq (.plain "this.description" ["description"])
          rfl rfl
      exact Tag.read?_value ⟨rfl, rfl⟩ rfl
        (fun n => by rcases n with _ | _ | _ | _ | n <;> rfl)
        (fun n => by cases n <;> rfl) hfield
  | type language =>
      have hthis : Tag.Names (.plain "this" [])
          ("this".toList ++ '}' :: '}' :: rest) ('}' :: '}' :: rest) :=
        { blanks := rfl
          option := fun n => by cases n <;> rfl
          keyword := rfl
          literal := rfl
          reference := Reference.ofChars?_eq (.plain "this" []) rfl rfl }
      cases language with
      | typeScript => exact Tag.read?_call ⟨rfl, rfl⟩ rfl rfl hthis
      | java => exact Tag.read?_call ⟨rfl, rfl⟩ rfl rfl hthis

def mark (p : PropertyPlace) : Mark where
  inside := p.inside
  tag := p.tag
  basic := by cases p <;> rfl
  reads := p.reads

theorem nests (p : PropertyPlace) :
    Nests p.mark.parts [p.element] := by
  cases p with
  | key => exact nests_value _
  | description => exact nests_value _
  | type language => exact nests_call _ _

end PropertyPlace

/-- A text field that a form can name. -/
inductive ModelField where
  | title
  | description
  | key
  | modelName

namespace ModelField

def name : ModelField → String
  | .title => "title"
  | .description => "description"
  | .key => "key"
  | .modelName => "modelName"

theorem reads (f : ModelField) (rest : List Char) :
    Tag.read? Tag.any
        ('{' :: '{' :: (f.name.toList ++ '}' :: '}' :: rest))
      = some (⟨.value (.reference (.plain f.name [f.name])),
          false, false, true⟩, rest) := by
  have hfield : Reference.ofChars?
        (f.name.toList ++ '}' :: '}' :: rest)
      = some (.plain f.name [f.name], '}' :: '}' :: rest) := by
    refine Reference.ofChars?_eq _ String.ofList_toList.symm ?_
    cases f <;> rfl
  have happlication : ∀ n, (Tag.application n).Fails
      (f.name.toList ++ '}' :: '}' :: rest) := by
    intro n
    rcases n with _ | _ | _ | _ | n <;> cases f <;> rfl
  have hnested : ∀ n, (Tag.nested n).Fails
      (f.name.toList ++ '}' :: '}' :: rest) := by
    intro n
    cases n <;> cases f <;> rfl
  have hbare : Tag.Bare (f.name.toList ++ '}' :: '}' :: rest) := by
    cases f <;> exact ⟨rfl, rfl⟩
  have helse : Tag.elseMark.Fails
      (f.name.toList ++ '}' :: '}' :: rest) := by
    cases f <;> rfl
  exact Tag.read?_value hbare helse happlication hnested hfield

def mark (f : ModelField) : Mark where
  inside := f.name
  tag := .value (.reference (.plain f.name [f.name]))
  basic := rfl
  reads := f.reads

end ModelField

/-- A place of a form. -/
inductive ModelPlace where
  | field (field : ModelField)
  /-- A place that is filled once for each property. -/
  | properties (body : List (Item PropertyPlace))

namespace ModelPlace

def source : ModelPlace → String
  | .field f => tagged f.name
  | .properties body =>
      Loop.properties.source (Item.fill (fun p => tagged p.inside) body)

def element : ModelPlace → Element
  | .field f => Language.slot f.name f.name
  | .properties body =>
      Loop.properties.element
        ((Spaced.ofItems body).elements PropertyPlace.element)

/-- The tags of a place, with the text behind it. -/
def marks (t : PlainText) : ModelPlace → List (Mark × PlainText)
  | .field f => [(f.mark, t)]
  | .properties body =>
      Loop.properties.marks
        ((Spaced.ofItems body).map PropertyPlace.mark) t

/-- What becomes of a place, given what becomes of tags and texts. -/
def flat {β : Type} (ofText : PlainText → List β)
    (ofMark : Mark → List β) : ModelPlace → List β
  | .field f => ofMark f.mark
  | .properties body =>
      Loop.properties.flat ofMark
        ((Spaced.ofItems body).flat ofText fun p => ofMark p.mark)

theorem flatMap_marks {β : Type} (ofText : PlainText → List β)
    (ofMark : Mark → List β) (p : ModelPlace) (t : PlainText) :
    (p.marks t).flatMap (fun x => ofMark x.1 ++ ofText x.2)
      = p.flat ofText ofMark ++ ofText t := by
  cases p with
  | field f => simp [marks, flat]
  | properties body =>
      rw [marks, Loop.flatMap_marks, Spaced.flat_map, flat]

/-- What becomes of the tags of a place is spelled as the place. -/
theorem flat_source (p : ModelPlace) :
    p.flat PlainText.chars Mark.source = p.source.toList := by
  cases p with
  | field f => exact f.mark.source_eq
  | properties body =>
      rw [source, ← Loop.flat_source, ← Spaced.flat_ofItems, flat]
      simp only [Mark.source_eq]
      rfl

theorem nests (p : ModelPlace) :
    Nests (p.flat PlainText.parts Mark.parts) [p.element] := by
  cases p with
  | field f => exact nests_value _
  | properties body =>
      exact Loop.properties.nests
        ((Spaced.ofItems body).nests PropertyPlace.nests)

end ModelPlace

-- =================================================================== forms

/-- A form. -/
abbrev Form := List (Item ModelPlace)

namespace Form

def source (form : Form) : String := Item.fill ModelPlace.source form

def elements (form : Form) : Template :=
  (Spaced.ofItems form).elements ModelPlace.element

/-- A form as a line. -/
def line (form : Form) : Line where
  lead := (Spaced.ofItems form).lead
  rest := (Spaced.ofItems form).rest.flatMap fun x => x.1.marks x.2

theorem flat_line {β : Type} (ofText : PlainText → List β)
    (ofMark : Mark → List β) (form : Form) :
    form.line.flat ofText ofMark
      = (Spaced.ofItems form).flat ofText
          (ModelPlace.flat ofText ofMark) := by
  rw [Spaced.flat, line, List.flatMap_assoc, Spaced.flat]
  simp only [ModelPlace.flatMap_marks]

theorem source_line (form : Form) :
    form.line.source = form.source.toList := by
  rw [Line.source, flat_line, source, ← Spaced.flat_ofItems]
  simp only [Spaced.flat, ModelPlace.flat_source]

theorem nests_line (form : Form) :
    Nests form.line.parts form.elements := by
  rw [Line.parts, flat_line]
  exact (Spaced.ofItems form).nests ModelPlace.nests

theorem crowded_line (form : Form) : Layout.Crowded form.line.rest := by
  rw [line]
  cases (Spaced.ofItems form).rest with
  | nil => exact trivial
  | cons first rest =>
      obtain ⟨p, t⟩ := first
      rw [List.flatMap_cons]
      cases p with
      | field f => exact fun h => by cases h
      | properties body => exact Loop.properties.crowded_marks _ _ _

/-- The source of a form reads as its elements. -/
theorem ofSource_source (form : Form) :
    ofSource form.source = .ok form.elements := by
  have hline := ofSource_line form.crowded_line form.nests_line
  rw [source_line, String.ofList_toList] at hline
  exact hline

-- ---------------------------------------------------------------- repeated

/-- The source of a form, repeated for each model. -/
def repeated (form : Form) : String := Loop.models.source form.source

/-- A repeated form as a line. -/
def repeatedLine (form : Form) : Line :=
  ⟨.empty, Loop.models.marks form.line .empty⟩

theorem flat_repeatedLine {β : Type} {ofText : PlainText → List β}
    (hempty : ofText .empty = []) (ofMark : Mark → List β) (form : Form) :
    form.repeatedLine.flat ofText ofMark
      = Loop.models.flat ofMark (form.line.flat ofText ofMark) := by
  rw [Spaced.flat, repeatedLine, Loop.flatMap_marks, hempty,
    List.nil_append, List.append_nil]

theorem source_repeatedLine (form : Form) :
    form.repeatedLine.source = form.repeated.toList := by
  have hsource : form.line.flat PlainText.chars Mark.source
      = form.source.toList :=
    form.source_line
  rw [Line.source, flat_repeatedLine rfl, hsource, Loop.flat_source,
    repeated]

theorem nests_repeatedLine (form : Form) :
    Nests form.repeatedLine.parts [Loop.models.element form.elements] := by
  rw [Line.parts, flat_repeatedLine rfl]
  exact Loop.models.nests form.nests_line

/-- Repeated, the source of a form reads as a loop over its elements. -/
theorem ofSource_repeated (form : Form) :
    ofSource form.repeated = .ok [Loop.models.element form.elements] := by
  have hcrowded : Layout.Crowded form.repeatedLine.rest := by
    rw [repeatedLine, ← List.append_nil (Loop.marks ..)]
    exact Loop.models.crowded_marks _ _ _
  have hline := ofSource_line hcrowded form.nests_repeatedLine
  rw [source_repeatedLine, String.ofList_toList] at hline
  exact hline

end Form

end SchemaPress.Template
