/-
Generation with the built-in templates.

The templates of all languages are made from the same few places: a field
that is text, the type of a property, the loop over the properties of a
model. What each comes to is said here once, over a model or a property
as it is written, and whatever the spelling of the reference is.

What is left for a language is its text: when the elements of its
template render to it over every subject, generation gives just these
texts, in files named after the subjects (`generate_builtIn`).
-/
import SchemaPress.Proofs.Generation.FileName
import SchemaPress.Proofs.Generation.Output
import SchemaPress.Proofs.Generation.Pipeline
import SchemaPress.Proofs.Template.BuiltIn
import SchemaPress.Proofs.Template.Element

namespace SchemaPress

-- ================================================================ places

namespace Language

open Template Template.Rendering

variable {render : Setting → Template → Rendering String} {s : Setting}

/-- The place of a text field is filled with the text, or left empty. -/
theorem slot_yields (hindent : s.indent = "") {fields : Fields Json}
    (hover : s.scope.Over (.object fields)) (spelling name : String)
    (hname : Helper.ofName? spelling = none) (text : Option String)
    (hget : Fields.get? name fields = text.map Json.string) :
    Yields ((slot spelling name).render render s) (text.getD "") := by
  obtain ⟨found, hresolve, hjson⟩ := hover.resolve_field spelling name
  have hshown : found.shown = text.getD "" := by
    rw [Found.shown, hjson, hget, shown_text]
  rw [← hshown]
  exact value_yields hindent hname hresolve

section

variable {name : String} {m : Model} (hindent : s.indent = "")
  (hover : s.scope.Over (m.data name)) (spelling : String)
  (hspelling : Helper.ofName? spelling = none)

include hindent hover hspelling

/-- The place of a title is filled with that of the model. -/
theorem modelTitle_yields (hproper : m.Proper) :
    Yields ((slot spelling "title").render render s)
      (m.title.getD "") :=
  slot_yields hindent hover spelling "title" hspelling m.title
    (hproper.get?_title_dataFields name)

/-- The place of a description is filled with that of the model. -/
theorem modelDescription_yields (hproper : m.Proper) :
    Yields ((slot spelling "description").render render s)
      (m.description.getD "") :=
  slot_yields hindent hover spelling "description" hspelling
    m.description (hproper.get?_description_dataFields name)

/-- The place of a name is filled with that of the model. -/
theorem modelName_yields :
    Yields ((slot spelling "modelName").render render s) name :=
  slot_yields hindent hover spelling "modelName" hspelling (some name)
    (Model.get?_modelName_dataFields name m)

/-- The other place of a name is filled likewise. -/
theorem modelKey_yields :
    Yields ((slot spelling "key").render render s) name :=
  slot_yields hindent hover spelling "key" hspelling (some name)
    (Model.get?_key_dataFields name m)

end

/-- The place of a description is filled with that of the property. -/
theorem description_yields (hindent : s.indent = "") {schema : Schema}
    (hproper : schema.Proper) (hover : s.scope.Over schema.toJson) :
    Yields ((slot "this.description" "description").render render s)
      (schema.description.getD "") := by
  rw [Schema.toJson_eq] at hover
  exact slot_yields hindent hover "this.description" "description"
    (by decide) schema.description
    (Schema.get?_description_fieldsWith hproper _)

/-- The place of a type is filled with that of the property. -/
theorem typeSlot_yields (language : Language) {schema : Schema}
    (hproper : schema.Proper) (hover : s.scope.Over schema.toJson) :
    Yields (language.typeSlot.render render s)
      (language.typeOfSchema schema) := by
  obtain ⟨found, hresolve, hreached⟩ := hover.resolve_this "this"
  have htype : Helper.typeOf language found.json
      = language.typeOfSchema schema := by
    rw [hreached.json_eq, Helper.typeOf, hproper.ofJson_toJson]
  rw [← htype]
  exact typeName_yields language hresolve

/-- A loop over the properties of a model yields the texts of its
properties, in order. -/
theorem eachProperty_yields {name : String} {m : Model}
    (hproper : m.Proper) (hover : s.scope.Over (m.data name))
    (spelling : String) (alone : Bool) {body : Template}
    {text : String × Schema → String}
    (hbody : ∀ property ∈ m.properties, ∀ scope : Scope,
      scope.Over property.2.toJson →
      scope.local? 0 "key" = some (.string property.1) →
      Yields (renderAll render { s with scope } body) (text property)) :
    Yields (Element.render render s
        (.block "each" ⟨[.reference (.plain spelling ["properties"])], []⟩
          [] alone body none))
      (String.join (m.properties.map text)) := by
  have hfollow : follow (m.data name) ["properties"]
      = .ok (some (.object
          (Fields.mapValues Schema.toJson m.properties))) := by
    rw [Model.data, follow, member,
      hproper.get?_properties_dataFields name]
    rfl
  obtain ⟨found, hresolve, hreached⟩ :=
    hover.resolve_some spelling hfollow
  exact each_object_yields hover hresolve hreached
    hproper.properties_nodup alone hbody

/-- The loop of the built-in templates yields the texts of the
properties. -/
theorem loop_yields {name : String} {m : Model} (hproper : m.Proper)
    (hover : s.scope.Over (m.data name)) (spelling : String)
    {body : Template} {text : String × Schema → String}
    (hbody : ∀ property ∈ m.properties, ∀ scope : Scope,
      scope.Over property.2.toJson →
      scope.local? 0 "key" = some (.string property.1) →
      Yields (renderAll render { s with scope } body) (text property)) :
    Yields ((loop spelling "properties" body).render render s)
      (String.join (m.properties.map text)) :=
  eachProperty_yields hproper hover spelling true hbody

/-- A loop over the models of a document yields the texts of the models,
in order. -/
theorem eachModel_yields {models : Models}
    (hover : s.scope.Over models.data) (alone : Bool) {body : Template}
    {text : String × Model → String}
    (hbody : ∀ model ∈ models, ∀ scope : Scope,
      scope.Over (model.2.data model.1) →
      Yields (renderAll render { s with scope } body) (text model)) :
    Yields (Element.render render s
        (.block "each" ⟨[.reference (.plain "models" ["models"])], []⟩ []
          alone body none))
      (String.join (models.map text)) := by
  have hfollow : follow models.data ["models"]
      = .ok (some (.array
          (models.map fun model => model.2.data model.1))) := rfl
  obtain ⟨found, hresolve, hreached⟩ :=
    hover.resolve_some "models" hfollow
  exact each_array_yields hover hresolve hreached alone hbody

/-- The extension of a language is put behind the name as it is. -/
theorem nameFor_namedTemplate (language : Language) (name : String) :
    language.namedTemplate.fileName.nameFor name
      = name ++ ("." ++ language.extension) := by
  rw [← String.append_assoc]
  cases language with
  | typeScript =>
      exact NamePattern.nameFor_of_plain (by decide) (by decide) name
  | java =>
      exact NamePattern.nameFor_of_plain (by decide) (by decide) name

end Language

-- ============================================================ generation

namespace Options

/-- When the elements of a language's template render to a text over
every subject, generation gives these texts and leaves the tree alone. -/
theorem generate_builtIn {t : FileTree} {location : Location}
    {models : Models} {language : String} {target : Language}
    (hload : (StateT.run (location.load (m := OnTree)) t).1 = .ok models)
    (hname : Language.ofName? language = some target)
    {ι : Type} {items : List ι} {toSubject : ι → String × Json}
    (hsubjects : models.subjects (.ofLanguage language) location.name
      = items.map toSubject)
    {content : ι → String}
    (hrender : ∀ x ∈ items, ∀ name templates,
      Template.render name templates (Language.elements target)
        (toSubject x).2 = .ok (content x)) :
    StateT.run ((ofLanguage location language .builtIn).generate
        (m := OnTree)) t
      = (.ok (items.map fun x =>
          ⟨(toSubject x).1 ++ ("." ++ target.extension), content x⟩),
        t) := by
  have hloaded : location.loadFrom t = .ok models := by
    rw [Location.load_fst] at hload
    exact hload
  have hselect : TemplateOrigin.selectFrom t language .builtIn
      = .ok [target.namedTemplate] := by
    rw [TemplateOrigin.selectFrom, hname]
  have hread : Template.ofSource target.namedTemplate.source
      = .ok (Language.elements target) :=
    Language.ofSource_template target
  have hfiles := OutputFile.ofModels_eq_ok hread hsubjects hrender
  simp only [Language.nameFor_namedTemplate] at hfiles
  rw [generate_run, generateFrom, ofLanguage, hloaded]
  show ((TemplateOrigin.selectFrom t language .builtIn >>= _), t) = _
  rw [hselect]
  show (OutputFile.ofModels [target.namedTemplate] models location.name
    (.ofLanguage language), t) = _
  rw [hfiles]

end Options

/-- A tree with one document, in which a model and a property of it have
extensions that are called like what the templates look up. -/
def FileTree.contested : FileTree where
  here := []
  entries := [(["shop.yml"], .file (.text (
    "components:\n schemas:\n  User:\n   title: A & B\n"
      ++ "   description: '\x7b\x7btitle\x7d\x7d'\n   key: k\n"
      ++ "   modelName: n\n   this: t\n   models: m\n"
      ++ "   properties:\n    tags:\n     type: array\n"
      ++ "     items: \x7b$ref: '#/Tag'\x7d\n     key: y\n"
      ++ "     description: <all>\n     getTsType: x\n"
      ++ "  Tag: \x7b\x7d\n")))]

end SchemaPress
