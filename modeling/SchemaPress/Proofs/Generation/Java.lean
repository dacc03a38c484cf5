/-
Java from end to end: what generation gives for every document that can
be loaded.

Each model has a file of its own, and the template is rendered over the
data of the model itself, so nothing of another model is in reach. The
text is written down here on its own: a class, and in it a field for each
property, under a comment if there is something to say. As to extensions,
the recognised fields of a proper model are what they are whatever
extensions stand beside them, and the name of the model is put over both
of the names it goes by.
-/
import SchemaPress.Proofs.Generation.BuiltIn
import SchemaPress.Proofs.Language
import SchemaPress.Proofs.Outcome

namespace SchemaPress.Java

open Template Template.Rendering

-- ================================================================== text

/-- A description as a comment, if there is something to say. -/
def commentText (description : String) : String :=
  if description = "" then ""
  else String.join ["    /**\n     * ", description, "\n     */\n"]

/-- A property as a field of a class. -/
def memberText (property : String × Schema) : String :=
  String.join
    ["\n", commentText (property.2.description.getD ""), "    public ",
      Language.java.typeOfSchema property.2, " ", property.1, ";\n"]

/-- The file of a model. -/
def classText (model : String × Model) : String :=
  String.join
    ["import java.util.*;\n\n/**\n * ", model.2.title.getD "",
      "\n *\n * ", model.2.description.getD "", "\n */\npublic class ",
      model.1, " \x7b\n", String.join (model.2.properties.map memberText),
      "\x7d\n"]

-- ============================================================= rendering

variable {render : Setting → Template → Rendering String} {s : Setting}

/-- The choice yields a comment over a property as it is written. -/
theorem comment_yields (hindent : s.indent = "") {schema : Schema}
    (hproper : schema.Proper) (hover : s.scope.Over schema.toJson) :
    Yields (Language.commentSlot.render render s)
      (commentText (schema.description.getD "")) := by
  have hdescription : Yields
      ((Language.slot "this.description" "description").render render s)
      (schema.description.getD "") :=
    Language.description_yields hindent hproper hover
  have hbody : Yields
      (renderAll render s
        [.text "    /**\n     * ",
          Language.slot "this.description" "description",
          .text "\n     */\n"])
      (String.join ["    /**\n     * ", schema.description.getD "",
        "\n     */\n"]) :=
    renderAll_yields_cons (text_yields hindent _) <|
    renderAll_yields_cons hdescription <|
    renderAll_yields_cons (text_yields hindent _) renderAll_yields_nil
  rw [Schema.toJson_eq] at hover
  obtain ⟨found, hresolve, hjson⟩ :=
    hover.resolve_field "this.description" "description"
  rw [Schema.get?_description_fieldsWith hproper] at hjson
  have hchoice := choice_yields hresolve true hbody
  have htext : commentText (schema.description.getD "")
      = if found.json.isTruthy false then
          String.join ["    /**\n     * ", schema.description.getD "",
            "\n     */\n"]
        else "" := by
    rw [hjson, commentText]
    cases schema.description with
    | none => rfl
    | some description =>
        by_cases hempty : description = ""
        · rw [hempty]
          rfl
        · simp [Json.isTruthy, hempty]
  rw [htext]
  exact hchoice

/-- The body of the loop yields a field over a property as it is
written. -/
theorem member_yields (hindent : s.indent = "") {name : String}
    {schema : Schema} (hproper : schema.Proper)
    (hover : s.scope.Over schema.toJson)
    (hkey : s.scope.local? 0 "key" = some (.string name)) :
    Yields (renderAll render s (Language.propertyElements .java))
      (memberText (name, schema)) := by
  have hcomment : Yields (Language.commentSlot.render render s)
      (commentText (schema.description.getD "")) :=
    comment_yields hindent hproper hover
  have htype : Yields ((Language.typeSlot .java).render render s)
      (Language.java.typeOfSchema schema) :=
    Language.typeSlot_yields .java hproper hover
  have hname : Yields (Language.keySlot.render render s) name :=
    key_yields hindent hkey
  exact renderAll_yields_cons (text_yields hindent _) <|
    renderAll_yields_cons hcomment <|
    renderAll_yields_cons (text_yields hindent _) <|
    renderAll_yields_cons htype <|
    renderAll_yields_cons (text_yields hindent _) <|
    renderAll_yields_cons hname <|
    renderAll_yields_cons (text_yields hindent _) renderAll_yields_nil

/-- The template yields a class over the data of a model. -/
theorem elements_yield (hindent : s.indent = "") {name : String}
    {m : Model} (hproper : m.Proper)
    (hover : s.scope.Over (m.data name)) :
    Yields (renderAll render s (Language.elements .java))
      (classText (name, m)) := by
  have htitle : Yields
      ((Language.slot "title" "title").render render s)
      (m.title.getD "") :=
    Language.modelTitle_yields hindent hover "title" (by decide) hproper
  have hdescription : Yields
      ((Language.slot "description" "description").render render s)
      (m.description.getD "") :=
    Language.modelDescription_yields hindent hover "description"
      (by decide) hproper
  have hname : Yields
      ((Language.slot "modelName" "modelName").render render s) name :=
    Language.modelName_yields hindent hover "modelName" (by decide)
  have hmembers : Yields
      ((Language.loop "properties" "properties"
        (Language.propertyElements .java)).render render s)
      (String.join (m.properties.map memberText)) := by
    refine Language.loop_yields hproper hover _ ?_
    intro property hproperty scope hscope hkey
    exact member_yields (s := { s with scope }) hindent
      (hproper.properties_proper property hproperty) hscope hkey
  exact renderAll_yields_cons (text_yields hindent _) <|
    renderAll_yields_cons htitle <|
    renderAll_yields_cons (text_yields hindent _) <|
    renderAll_yields_cons hdescription <|
    renderAll_yields_cons (text_yields hindent _) <|
    renderAll_yields_cons hname <|
    renderAll_yields_cons (text_yields hindent _) <|
    renderAll_yields_cons hmembers <|
    renderAll_yields_cons (text_yields hindent _) renderAll_yields_nil

-- ============================================================ generation

/-- For every document that can be loaded and every spelling of the
language, generation gives one file for each model, in order: it is named
after the model and holds its class. The tree is left alone. -/
theorem generate_java {t : FileTree} {location : Location}
    {models : Models} {language : String}
    (hload : (StateT.run (location.load (m := OnTree)) t).1 = .ok models)
    (hlanguage : lowerCase language = "java".toList) :
    StateT.run ((Options.ofLanguage location language .builtIn).generate
        (m := OnTree)) t
      = (.ok (models.map fun model =>
          ⟨model.1 ++ ".java", classText model⟩), t) := by
  have hname : Language.ofName? language = some .java := by
    rw [Language.ofName?_eq_some_iff, hlanguage]
    decide
  have hsubjects : models.subjects (.ofLanguage language) location.name
      = models.map fun model => (model.1, model.2.data model.1) := by
    rw [Grouping.ofLanguage_of_ofName? hname]
    rfl
  have hrender : ∀ model ∈ models, ∀ name templates,
      Template.render name templates (Language.elements .java)
        (model.2.data model.1) = .ok (classText model) := by
    rw [Location.load_fst] at hload
    intro model hmodel name templates
    have hproper := Location.proper_of_loadFrom hload hmodel
    refine render_eq_ok ?_ name
    intro render
    exact elements_yield rfl hproper (Scope.ofData_over _)
  have hextension : "." ++ Language.java.extension = ".java" := by
    decide
  rw [Options.generate_builtIn hload hname hsubjects hrender, hextension]

/-- What the contested document gives. No extension shows in it, and a
model without description still has its comment. -/
def contestedTexts : List String :=
  ["import java.util.*;\n\n/**\n * A & B\n *\n"
      ++ " * \x7b\x7btitle\x7d\x7d\n */\npublic class User \x7b\n"
      ++ "\n    /**\n     * <all>\n     */\n"
      ++ "    public List<Tag> tags;\n\x7d\n",
    "import java.util.*;\n\n/**\n * \n *\n * \n */\n"
      ++ "public class Tag \x7b\n\x7d\n"]

/-- The contested document can be loaded, and generation gives it in two
files. -/
theorem generate_java_contested :
    ∃ models,
      (StateT.run (Location.load (m := OnTree) ⟨"", "shop"⟩)
        .contested).1 = .ok models
      ∧ models.map Prod.fst = ["User", "Tag"]
      ∧ models.map classText = contestedTexts
      ∧ StateT.run ((Options.ofLanguage ⟨"", "shop"⟩ "JAVA"
          .builtIn).generate (m := OnTree)) .contested
        = (.ok (models.map fun model =>
            ⟨model.1 ++ ".java", classText model⟩), .contested) := by
  have hpasses : passes (fun models =>
        models.map Prod.fst == ["User", "Tag"]
          && models.map classText == contestedTexts)
      (StateT.run (Location.load (m := OnTree) ⟨"", "shop"⟩)
        .contested).1 = true := by
    decide +kernel
  obtain ⟨models, hload, hcheck⟩ := exists_of_passes hpasses
  obtain ⟨hnames, htexts⟩ := Bool.and_eq_true_iff.1 hcheck
  exact ⟨models, hload, beq_iff_eq.1 hnames, beq_iff_eq.1 htexts,
    generate_java hload (by decide)⟩

end SchemaPress.Java
