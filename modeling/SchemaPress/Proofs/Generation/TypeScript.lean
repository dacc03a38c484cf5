/-
TypeScript from end to end: what generation gives for every document that
can be loaded.

The text is written down here on its own, as the concatenation that it
is: an interface for each model, and in it a member for each property, in
declared order. `generate_typeScript` says that generation succeeds with
exactly one file, named after the document, which holds that text.

The argument goes up through the template. A member is what the inner
body yields over a property as it is written (`member_yields`), an
interface is what the outer body yields over the data of a model
(`interface_yields`), and the whole is what the loop over the models
yields. Proper models are what keeps extensions out of it: every name
that the template looks up is one that no extension has, or one that the
data override.
-/
import SchemaPress.Proofs.Generation.BuiltIn
import SchemaPress.Proofs.Language
import SchemaPress.Proofs.Outcome

namespace SchemaPress.TypeScript

open Template Template.Rendering

-- ================================================================== text

/-- A property as a member of an interface. -/
def memberText (property : String × Schema) : String :=
  String.join
    ["\n    /**\n     * ", property.1, ": ",
      property.2.description.getD "", "\n     */\n    ", property.1, ": ",
      Language.typeScript.typeOfSchema property.2, ";\n"]

/-- A model as an interface. -/
def interfaceText (model : String × Model) : String :=
  String.join
    ["\n/**\n * ", model.2.title.getD "", "\n *\n * ",
      model.2.description.getD "", "\n */\nexport interface ", model.1,
      " \x7b\n", String.join (model.2.properties.map memberText),
      "\x7d\n"]

/-- All models of a document. -/
def text (models : Models) : String :=
  String.join (models.map interfaceText)

-- ============================================================= rendering

variable {render : Setting → Template → Rendering String} {s : Setting}

/-- The inner body yields a member over a property as it is written. -/
theorem member_yields (hindent : s.indent = "") {name : String}
    {schema : Schema} (hproper : schema.Proper)
    (hover : s.scope.Over schema.toJson)
    (hkey : s.scope.local? 0 "key" = some (.string name)) :
    Yields (renderAll render s (Language.propertyElements .typeScript))
      (memberText (name, schema)) := by
  have hname : Yields (Language.keySlot.render render s) name :=
    key_yields hindent hkey
  have hdescription : Yields
      ((Language.slot "this.description" "description").render render s)
      (schema.description.getD "") :=
    Language.description_yields hindent hproper hover
  have htype : Yields ((Language.typeSlot .typeScript).render render s)
      (Language.typeScript.typeOfSchema schema) :=
    Language.typeSlot_yields .typeScript hproper hover
  exact renderAll_yields_cons (text_yields hindent _) <|
    renderAll_yields_cons hname <|
    renderAll_yields_cons (text_yields hindent _) <|
    renderAll_yields_cons hdescription <|
    renderAll_yields_cons (text_yields hindent _) <|
    renderAll_yields_cons hname <|
    renderAll_yields_cons (text_yields hindent _) <|
    renderAll_yields_cons htype <|
    renderAll_yields_cons (text_yields hindent _) renderAll_yields_nil

/-- The outer body yields an interface over the data of a model. -/
theorem interface_yields (hindent : s.indent = "") {name : String}
    {m : Model} (hproper : m.Proper)
    (hover : s.scope.Over (m.data name)) :
    Yields (renderAll render s (Language.modelElements .typeScript))
      (interfaceText (name, m)) := by
  have htitle : Yields
      ((Language.slot "this.title" "title").render render s)
      (m.title.getD "") :=
    Language.modelTitle_yields hindent hover "this.title" (by decide)
      hproper
  have hdescription : Yields
      ((Language.slot "this.description" "description").render render s)
      (m.description.getD "") :=
    Language.modelDescription_yields hindent hover "this.description"
      (by decide) hproper
  have hname : Yields
      ((Language.slot "this.modelName" "modelName").render render s)
      name :=
    Language.modelName_yields hindent hover "this.modelName" (by decide)
  have hmembers : Yields
      ((Language.loop "this.properties" "properties"
        (Language.propertyElements .typeScript)).render render s)
      (String.join (m.properties.map memberText)) := by
    refine Language.loop_yields hproper hover _ ?_
    intro property hproperty scope hscope hkey
    exact member_yields (s := { s with scope }) hindent
      (hproper.properties_proper property hproperty) hscope hkey
  exact renderAll_yields_cons (text_yields hindent _) <|
    renderAll_yields_cons htitle <|
    renderAll_yields_cons (text_yields hindent _) <|
    renderAll_yields_cons hdescription <|
    renderAll_yields_cons (text_yields hindent _) <|
    renderAll_yields_cons hname <|
    renderAll_yields_cons (text_yields hindent _) <|
    renderAll_yields_cons hmembers <|
    renderAll_yields_cons (text_yields hindent _) renderAll_yields_nil

/-- The template yields the text of all models over their data. -/
theorem elements_yield (hindent : s.indent = "") {models : Models}
    (hproper : ∀ entry ∈ models, entry.2.Proper)
    (hover : s.scope.Over models.data) :
    Yields (renderAll render s (Language.elements .typeScript))
      (text models) := by
  have hloop : Yields ((Language.loop "models" "models"
        (Language.modelElements .typeScript)).render render s)
      (text models) := by
    refine Language.eachModel_yields hover true ?_
    intro entry hentry scope hscope
    exact interface_yields (s := { s with scope }) hindent
      (hproper entry hentry) hscope
  have hall : Yields (renderAll render s (Language.elements .typeScript))
      (String.join [text models]) :=
    renderAll_yields_cons hloop renderAll_yields_nil
  rw [String.join_cons, String.join_nil, String.append_empty] at hall
  exact hall

-- ============================================================ generation

/-- For every document that can be loaded and every spelling of the
language, generation gives one file: it is named after the document and
holds an interface for each model, in order. The tree is left alone. -/
theorem generate_typeScript {t : FileTree} {location : Location}
    {models : Models} {language : String}
    (hload : (StateT.run (location.load (m := OnTree)) t).1 = .ok models)
    (hlanguage : lowerCase language = "typescript".toList) :
    StateT.run ((Options.ofLanguage location language .builtIn).generate
        (m := OnTree)) t
      = (.ok [⟨location.name ++ ".ts", text models⟩], t) := by
  have hname : Language.ofName? language = some .typeScript := by
    rw [Language.ofName?_eq_some_iff, hlanguage]
    decide
  have hproper : ∀ entry ∈ models, entry.2.Proper := by
    rw [Location.load_fst] at hload
    exact fun entry => Location.proper_of_loadFrom hload
  have hsubjects : models.subjects (.ofLanguage language) location.name
      = [location.name].map fun name => (name, models.data) := by
    rw [Grouping.ofLanguage_of_ofName? hname]
    rfl
  have hrender : ∀ x ∈ [location.name], ∀ name templates,
      Template.render name templates (Language.elements .typeScript)
        models.data = .ok (text models) := by
    intro _ _ name templates
    refine render_eq_ok ?_ name
    intro render
    exact elements_yield rfl hproper (Scope.ofData_over _)
  have hextension : "." ++ Language.typeScript.extension = ".ts" := by
    decide
  rw [Options.generate_builtIn hload hname hsubjects hrender, hextension]
  rfl

/-- What the contested document gives. No extension shows in it, and the
braces in a description stand as they are. -/
def contestedText : String :=
  "\n/**\n * A & B\n *\n * \x7b\x7btitle\x7d\x7d\n */\n"
    ++ "export interface User \x7b\n\n    /**\n     * tags: <all>\n"
    ++ "     */\n    tags: Tag[];\n\x7d\n\n/**\n * \n *\n * \n */\n"
    ++ "export interface Tag \x7b\n\x7d\n"

/-- The contested document can be loaded, and generation gives it in one
file. -/
theorem generate_typeScript_contested :
    ∃ models,
      (StateT.run (Location.load (m := OnTree) ⟨"", "shop"⟩)
        .contested).1 = .ok models
      ∧ text models = contestedText
      ∧ StateT.run ((Options.ofLanguage ⟨"", "shop"⟩ "typeScript"
          .builtIn).generate (m := OnTree)) .contested
        = (.ok [⟨"shop" ++ ".ts", text models⟩], .contested) := by
  have hpasses : passes (fun models => text models == contestedText)
      (StateT.run (Location.load (m := OnTree) ⟨"", "shop"⟩)
        .contested).1 = true := by
    decide +kernel
  obtain ⟨models, hload, htext⟩ := exists_of_passes hpasses
  exact ⟨models, hload, beq_iff_eq.1 htext,
    generate_typeScript hload (by decide)⟩

end SchemaPress.TypeScript
