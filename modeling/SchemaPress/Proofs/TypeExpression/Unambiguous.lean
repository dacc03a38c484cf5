/-
Type expressions, read back.

No language writes two shapes in the same way, but for whole numbers,
which both of them call what they call numbers. The names of models are
the only danger. They are written as they are, so a model may be called
what a language calls something else, and it may look like a list. A name
is `Distinctive` if it does neither, in any of the languages.

# Lists and leaves

What a language writes for a list shows in it, at the end or at the
beginning, and what it writes for a leaf does not look so
(`typeOf_unbracketed`). So the text tells whether there is a list. A list
is written around its element, so the text of the list tells that of the
element (`listOf_injective`). A leaf is read back by looking for it among
the words that the language has; what is none of them is the name of a
model (`readLeaf_typeOf`).

# The induction

It is on the one shape, for all others (`widened_eq_of_typeOf_eq`). It
goes through for each language by itself. That the two distinguish the
same shapes follows, as what they distinguish is said without them
(`typeOf_eq_iff_widened`).
-/
import SchemaPress.Language

namespace SchemaPress

-- ============================================================= vocabulary

/-- What the languages write for shapes that are neither lists nor
models. -/
def reservedWords : List String :=
  ["string", "number", "boolean", "any", "String", "Long", "Boolean",
    "Object"]

/-- A text that does not look like a list in any language. -/
def Unbracketed (text : String) : Prop :=
  ¬ "[]".toList <:+ text.toList ∧ ¬ "List<".toList <+: text.toList

/-- A name that is not taken for anything but a name. -/
def Distinctive (name : String) : Prop :=
  Unbracketed name ∧ name ∉ reservedWords

instance (text : String) : Decidable (Unbracketed text) :=
  inferInstanceAs (Decidable (_ ∧ _))

instance (name : String) : Decidable (Distinctive name) :=
  inferInstanceAs (Decidable (_ ∧ _))

namespace Shape

/-- A shape in which every model has a distinctive name. -/
def Readable : Shape → Prop
  | .array element => element.Readable
  | .model name => Distinctive name
  | _ => True

instance decidableReadable : (s : Shape) → Decidable s.Readable
  | .primitive _ => .isTrue trivial
  | .array element => decidableReadable element
  | .model name => inferInstanceAs (Decidable (Distinctive name))
  | .untyped => .isTrue trivial

/-- A shape with numbers in the place of whole numbers. -/
def widened : Shape → Shape
  | .primitive .integer => .primitive .number
  | .array element => .array element.widened
  | shape => shape

end Shape

namespace Language

variable {language : Language} {s t : Shape}

-- ================================================================== lists

/-- A list looks like one. -/
theorem not_unbracketed_listOf (language : Language) (element : String) :
    ¬ Unbracketed (language.listOf element) := by
  intro h
  cases language with
  | typeScript =>
      refine h.1 ?_
      rw [listOf, String.toList_append]
      exact List.suffix_append _ _
  | java =>
      refine h.2 ?_
      rw [listOf, String.toList_append, String.toList_append,
        List.append_assoc]
      exact List.prefix_append _ _

/-- Lists that are written alike hold elements that are. -/
theorem listOf_injective {element other : String}
    (h : language.listOf element = language.listOf other) :
    element = other := by
  cases language with
  | typeScript => exact (String.append_left_inj "[]").1 h
  | java =>
      have hfront := (String.append_left_inj ">").1 h
      exact (String.append_right_inj "List<").1 hfront

-- ================================================================= leaves

theorem primitive_mem_reservedWords (language : Language)
    (kind : Primitive) : language.primitive kind ∈ reservedWords := by
  cases language <;> cases kind <;> decide

theorem untyped_mem_reservedWords (language : Language) :
    language.untyped ∈ reservedWords := by
  cases language <;> decide

theorem unbracketed_of_mem_reservedWords :
    ∀ word ∈ reservedWords, Unbracketed word := by
  decide

/-- What is no list does not look like one. -/
theorem typeOf_unbracketed (language : Language) (hs : s.Readable)
    (hleaf : ∀ element, s ≠ .array element) :
    Unbracketed (language.typeOf s) := by
  cases s with
  | primitive kind =>
      exact unbracketed_of_mem_reservedWords _
        (primitive_mem_reservedWords language kind)
  | array element => exact absurd rfl (hleaf element)
  | model name => exact hs.1
  | untyped =>
      exact unbracketed_of_mem_reservedWords _
        (untyped_mem_reservedWords language)

/-- Reads a text that is no list: as a word of the language, or else as
the name of a model. -/
def readLeaf (language : Language) (text : String) : Shape :=
  if text = language.untyped then .untyped
  else
    match Primitive.all.find? fun kind => language.primitive kind = text with
    | some kind => .primitive kind
    | none => .model text

/-- What is no list is read back, as a number if it was a whole
number. -/
theorem readLeaf_typeOf (language : Language) (hs : s.Readable)
    (hleaf : ∀ element, s ≠ .array element) :
    language.readLeaf (language.typeOf s) = s.widened := by
  cases s with
  | primitive kind => cases language <;> cases kind <;> decide
  | array element => exact absurd rfl (hleaf element)
  | model name =>
      have hne : ∀ word ∈ reservedWords, word ≠ name :=
        fun word hword heq => hs.2 (heq ▸ hword)
      have huntyped := hne _ (untyped_mem_reservedWords language)
      have hprimitive : Primitive.all.find?
          (fun kind => language.primitive kind = name) = none := by
        rw [List.find?_eq_none]
        intro kind _ hkind
        exact hne _ (primitive_mem_reservedWords language kind)
          (of_decide_eq_true hkind)
      rw [typeOf, readLeaf, if_neg huntyped.symm, hprimitive]
      rfl
  | untyped => cases language <;> decide

-- ================================================================= shapes

/-- Whole numbers are written as numbers are. -/
theorem typeOf_widened (language : Language) (s : Shape) :
    language.typeOf s.widened = language.typeOf s := by
  induction s with
  | primitive kind => cases language <;> cases kind <;> rfl
  | array element ih => rw [Shape.widened, typeOf, typeOf, ih]
  | model name => rfl
  | untyped => rfl

/-- A list and what is no list are not written alike. -/
theorem typeOf_ne_listOf (hs : s.Readable)
    (hleaf : ∀ element, s ≠ .array element) (element : String) :
    language.typeOf s ≠ language.listOf element := by
  intro h
  have hplain := typeOf_unbracketed language hs hleaf
  rw [h] at hplain
  exact not_unbracketed_listOf language element hplain

/-- What is written as something that is no list is the same but for
whole numbers. -/
theorem widened_eq_of_leaf (hs : s.Readable) (ht : t.Readable)
    (hleaf : ∀ element, s ≠ .array element)
    (h : language.typeOf s = language.typeOf t) :
    s.widened = t.widened := by
  have hother : ∀ element, t ≠ .array element := by
    rintro element rfl
    exact typeOf_ne_listOf hs hleaf _ h
  rw [← readLeaf_typeOf language hs hleaf, h,
    readLeaf_typeOf language ht hother]

/-- Shapes that a language writes alike are the same but for whole
numbers. -/
theorem widened_eq_of_typeOf_eq (hs : s.Readable) (ht : t.Readable)
    (h : language.typeOf s = language.typeOf t) :
    s.widened = t.widened := by
  induction s generalizing t with
  | array element ih =>
      cases t with
      | array other =>
          have hother : other.Readable := ht
          have helements : language.typeOf element
              = language.typeOf other := listOf_injective h
          rw [Shape.widened, Shape.widened, ih hs hother helements]
      | _ =>
          -- here it is the other that is no list
          exact (widened_eq_of_leaf ht hs (by rintro _ ⟨⟩) h.symm).symm
  | _ => exact widened_eq_of_leaf hs ht (by rintro _ ⟨⟩) h

/-- A language writes two shapes alike exactly if they are the same but
for whole numbers. -/
theorem typeOf_eq_iff_widened (hs : s.Readable) (ht : t.Readable)
    (language : Language) :
    language.typeOf s = language.typeOf t ↔ s.widened = t.widened := by
  constructor
  · exact widened_eq_of_typeOf_eq hs ht
  · intro h
    rw [← typeOf_widened language s, h, typeOf_widened]

/-- The two languages tell the same shapes apart, and those are all that
differ in more than whole numbers. -/
theorem typeOf_eq_iff {s t : Shape} (hs : s.Readable)
    (ht : t.Readable) :
    (typeScript.typeOf s = typeScript.typeOf t
      ↔ java.typeOf s = java.typeOf t)
    ∧ (java.typeOf s = java.typeOf t ↔ s.widened = t.widened) := by
  have hall := typeOf_eq_iff_widened hs ht
  exact ⟨(hall typeScript).trans (hall java).symm, hall java⟩

/-- A list of a model with a name that has something of a list in both
languages. -/
def deceptiveList : Shape := .array (.model "List[]>")

/-- A list of lists of a model, whose name is a part of that. -/
def deceptiveLists : Shape := .array (.array (.model "List"))

/-- No language takes the deceptive shapes for one another, and both take
whole numbers for numbers, in lists as well. -/
theorem typeOf_eq_iff_deceptive :
    deceptiveList.Readable ∧ deceptiveLists.Readable
      ∧ typeScript.typeOf deceptiveList
        ≠ typeScript.typeOf deceptiveLists
      ∧ java.typeOf deceptiveList ≠ java.typeOf deceptiveLists
      ∧ typeScript.typeOf (.array (.primitive .integer))
        = typeScript.typeOf (.array (.primitive .number))
      ∧ java.typeOf (.array (.primitive .integer))
        = java.typeOf (.array (.primitive .number)) := by
  have hlist : deceptiveList.Readable := by decide
  have hlists : deceptiveLists.Readable := by decide
  have hne : deceptiveList.widened ≠ deceptiveLists.widened := by decide
  obtain ⟨hboth, hjava⟩ := typeOf_eq_iff hlist hlists
  have hjavaNe := mt hjava.1 hne
  have hwhole := typeOf_eq_iff (s := .array (.primitive .integer))
    (t := .array (.primitive .number)) trivial trivial
  have hjavaEq := hwhole.2.2 rfl
  exact ⟨hlist, hlists, mt hboth.1 hjavaNe, hjavaNe,
    hwhole.1.2 hjavaEq, hjavaEq⟩

end Language

end SchemaPress
