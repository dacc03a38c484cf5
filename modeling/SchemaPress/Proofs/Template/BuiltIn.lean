/-
The built-in templates as they are read.

What a built-in template yields is argued from its elements, so first its
source has to be read. `Language.elements` lists the elements of each
language's template, and `ofSource_template` says that they are what its
source reads as. The lines that hold nothing but the tag of a block have
left no text behind, so a block starts with the text of the line after
its tag.

Reading is a computation on a fixed text. Its result is compared with the
list by `Element.same`, a test that is only meant for elements like these
and says no to everything else; a yes is certain (`eq_of_sameAll`).
-/
import SchemaPress.Generation.Origin
import SchemaPress.Proofs.Outcome
import SchemaPress.Proofs.Template.Scope

namespace SchemaPress

namespace Template

-- ============================================================= comparison

/-- Whether two expressions are the same reference. -/
def Expr.same : Expr → Expr → Bool
  | .reference a, .reference b => a = b
  | _, _ => false

def Expr.sameAll : List Expr → List Expr → Bool
  | [], [] => true
  | x :: xs, y :: ys => x.same y && sameAll xs ys
  | _, _ => false

def Arguments.same (a b : Arguments) : Bool :=
  Expr.sameAll a.positional b.positional
    && a.options.isEmpty && b.options.isEmpty

mutual

/-- Whether two elements are the same text, value, call or block with one
body. -/
def Element.same : Element → Element → Bool
  | .text a, .text b => a = b
  | .value x, .value y => x.same y
  | .call f a, .call g b => f = g && a.same b
  | .block f a ps alone xs none, .block g b qs lone ys none =>
      f = g && a.same b && ps = qs && alone = lone && sameAll xs ys
  | _, _ => false

/-- Whether two bodies are the same element by element. -/
def sameAll : Template → Template → Bool
  | [], [] => true
  | x :: xs, y :: ys => x.same y && sameAll xs ys
  | _, _ => false

end

theorem Expr.eq_of_same {x y : Expr} (h : x.same y = true) : x = y := by
  unfold Expr.same at h
  split at h
  · rw [of_decide_eq_true h]
  · cases h

theorem Expr.eq_of_sameAll {xs ys : List Expr}
    (h : Expr.sameAll xs ys = true) : xs = ys := by
  induction xs generalizing ys with
  | nil =>
      cases ys with
      | nil => rfl
      | cons y rest => cases h
  | cons x more ih =>
      cases ys with
      | nil => cases h
      | cons y rest =>
          rw [Expr.sameAll, Bool.and_eq_true] at h
          rw [Expr.eq_of_same h.1, ih h.2]

theorem Arguments.eq_of_same {a b : Arguments} (h : a.same b = true) :
    a = b := by
  obtain ⟨xs, os⟩ := a
  obtain ⟨ys, ps⟩ := b
  rw [Arguments.same, Bool.and_eq_true, Bool.and_eq_true,
    List.isEmpty_iff, List.isEmpty_iff] at h
  obtain ⟨⟨hargs, hos⟩, hps⟩ := h
  simp only at hargs hos hps
  rw [Expr.eq_of_sameAll hargs, hos, hps]

mutual

theorem Element.eq_of_same :
    ∀ x y : Element, x.same y = true → x = y := by
  intro x y h
  unfold Element.same at h
  split at h
  case h_1 => rw [of_decide_eq_true h]
  case h_2 => rw [Expr.eq_of_same h]
  case h_3 =>
      rw [Bool.and_eq_true] at h
      rw [of_decide_eq_true h.1, Arguments.eq_of_same h.2]
  case h_4 xs _ _ _ _ _ ys =>
      simp only [Bool.and_eq_true, decide_eq_true_eq] at h
      obtain ⟨⟨⟨⟨hname, harguments⟩, hparameters⟩, halone⟩, hbody⟩ := h
      rw [hname, Arguments.eq_of_same harguments, hparameters, halone,
        eq_of_sameAll _ _ hbody]
  case h_5 => cases h

/-- Bodies that compare as the same are. -/
theorem eq_of_sameAll :
    ∀ xs ys : Template, sameAll xs ys = true → xs = ys
  | [], [], _ => rfl
  | x :: xs, y :: ys, h => by
      rw [sameAll, Bool.and_eq_true] at h
      rw [Element.eq_of_same x y h.1, eq_of_sameAll xs ys h.2]
  | [], _ :: _, h => by cases h
  | _ :: _, [], h => by cases h

end

end Template

namespace Language

open Template

-- =============================================================== elements

/-- A place for a field of the value in reach. -/
def slot (spelling name : String) : Element :=
  .value (.reference (.plain spelling [name]))

/-- A place for the key of a loop. -/
def keySlot : Element := .value (.reference .key)

/-- A place for the type of the schema in reach. -/
def typeSlot (language : Language) : Element :=
  .call language.helper ⟨[.reference (.plain "this" [])], []⟩

/-- A loop over a field, started on a line of its own. -/
def loop (spelling name : String) (body : Template) : Element :=
  .block "each" ⟨[.reference (.plain spelling [name])], []⟩ [] true body
    none

/-- A place for a comment, if the property in reach has a description. -/
def commentSlot : Element :=
  .block "if" ⟨[.reference (.plain "this.description" ["description"])], []⟩
    [] true
    [.text "    /**\n     * ", slot "this.description" "description",
      .text "\n     */\n"]
    none

/-- What the built-in templates repeat for each property. -/
def propertyElements : Language → Template
  | .typeScript =>
      [.text "\n    /**\n     * ", keySlot, .text ": ",
        slot "this.description" "description",
        .text "\n     */\n    ", keySlot, .text ": ",
        typeSlot .typeScript, .text ";\n"]
  | .java =>
      [.text "\n", commentSlot, .text "    public ", typeSlot .java,
        .text " ", keySlot, .text ";\n"]

/-- What the built-in templates say for each model. -/
def modelElements : Language → Template
  | .typeScript =>
      [.text "\n/**\n * ", slot "this.title" "title",
        .text "\n *\n * ", slot "this.description" "description",
        .text "\n */\nexport interface ",
        slot "this.modelName" "modelName", .text " \x7b\n",
        loop "this.properties" "properties"
          (propertyElements .typeScript),
        .text "\x7d\n"]
  | .java =>
      [.text "import java.util.*;\n\n/**\n * ", slot "title" "title",
        .text "\n *\n * ", slot "description" "description",
        .text "\n */\npublic class ", slot "modelName" "modelName",
        .text " \x7b\n", loop "properties" "properties"
          (propertyElements .java),
        .text "\x7d\n"]

/-- The built-in template of a language. -/
def elements : Language → Template
  | .typeScript => [loop "models" "models" (modelElements .typeScript)]
  | .java => modelElements .java

/-- The source of a built-in template reads as its elements. -/
theorem ofSource_template (language : Language) :
    ofSource language.template = .ok language.elements := by
  have hpasses : passes (sameAll language.elements)
      (ofSource language.template) = true := by
    cases language <;> decide +kernel
  obtain ⟨template, hread, hsame⟩ := exists_of_passes hpasses
  rw [hread, eq_of_sameAll _ _ hsame]

end Language

end SchemaPress
