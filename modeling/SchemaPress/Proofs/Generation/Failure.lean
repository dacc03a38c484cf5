/-
Why generation fails.

Several things can be wrong at once, and generation reports one of them.
Which one that is can be said without running it: each stage has its own
ways to fail (`Location.FailsWith`, `TemplateOrigin.FailsWith`,
`NamedTemplate.FailsWith`), and the failure of a stage is reported if all
stages before it succeed (`Options.FailsWith`). That these are the errors
of generation, and the only ones, is `Options.generate_eq_error_iff`.

The stages do not look ahead or back. The document is the first of two
files that is there, and nothing wrong with it makes the other one count;
the language does not matter where the template is in a file. A built-in
template can always be read, and it can be rendered whatever the document
declares, unless the list of all models is looked for in a single one.
-/
import SchemaPress.Proofs.Generation.Acceptance
import SchemaPress.Proofs.Generation.Sources
import SchemaPress.Proofs.Language

namespace SchemaPress

variable {t : FileTree} {e : GenerationError}

-- ================================================================ loading

/-- A file that cannot be read holds no text. -/
theorem FileTree.read_of_isFile {path : String} {cause : DiskError}
    (hfile : t.isFile path = true) (h : t.read path = .error cause) :
    cause = .notText := by
  unfold isFile at hfile
  split at hfile
  · next a content hvisit =>
      rw [read, hvisit] at h
      cases content with
      | text text => cases h
      | bytes bytes =>
          cases h
          rfl
  · cases hfile

namespace Location

/-- The document that counts: the first of two that is a file. -/
inductive Chosen (t : FileTree) (location : Location) : String → Prop
  | first (hfirst : t.isFile location.documentPath = true) :
      Chosen t location location.documentPath
  | second (hfirst : t.isFile location.documentPath = false)
      (hsecond : t.isFile location.alternativePath = true) :
      Chosen t location location.alternativePath

/-- The models that are declared by the document that counts. -/
def Loads (t : FileTree) (location : Location) (models : Models) : Prop :=
  ∃ path text, location.Chosen t path ∧ t.read path = .ok text
    ∧ Models.ofText text = .ok models

/-- How loading fails. -/
inductive FailsWith (t : FileTree) (location : Location) :
    GenerationError → Prop
  /-- There is no document. -/
  | missing (hfirst : t.isFile location.documentPath = false)
      (hsecond : t.isFile location.alternativePath = false) :
      FailsWith t location (.documentNotFound location.documentPath)
  /-- The document that counts holds no text. -/
  | unreadable {path : String} (hchosen : location.Chosen t path)
      (hread : t.read path = .error .notText) :
      FailsWith t location (.documentNotFound path)
  /-- Its text does not declare models. -/
  | malformed {path text : String} {reason : Malformation}
      (hchosen : location.Chosen t path) (hread : t.read path = .ok text)
      (htext : Models.ofText text = .error reason) :
      FailsWith t location (.malformedDocument reason.message)

variable {location : Location} {models : Models}

theorem findIn_eq_some_iff {path : String} :
    location.findIn t = some path ↔ location.Chosen t path := by
  unfold findIn
  constructor
  · intro h
    split at h
    · next hfirst =>
        cases h
        exact .first hfirst
    · next hfirst =>
        rw [Bool.not_eq_true] at hfirst
        split at h
        · next hsecond =>
            cases h
            exact .second hfirst hsecond
        · cases h
  · rintro (hfirst | ⟨hfirst, hsecond⟩)
    · rw [if_pos hfirst]
    · rw [hfirst, hsecond]
      rfl

theorem findIn_eq_none_iff :
    location.findIn t = none
      ↔ t.isFile location.documentPath = false
        ∧ t.isFile location.alternativePath = false := by
  unfold findIn
  cases t.isFile location.documentPath <;>
    cases t.isFile location.alternativePath <;> simp

theorem Chosen.isFile {path : String} (h : location.Chosen t path) :
    t.isFile path = true := by
  cases h with
  | first hfirst => exact hfirst
  | second _ hsecond => exact hsecond

theorem loadFrom_eq_ok_iff_loads :
    location.loadFrom t = .ok models ↔ location.Loads t models := by
  simp only [loadFrom_eq_ok_iff, findIn_eq_some_iff, Loads]

/-- Loading fails in the given ways and in no other. -/
theorem loadFrom_eq_error_iff :
    location.loadFrom t = .error e ↔ location.FailsWith t e := by
  constructor
  · intro h
    unfold loadFrom at h
    split at h
    · next hfind =>
        obtain ⟨hfirst, hsecond⟩ := findIn_eq_none_iff.1 hfind
        cases h
        exact .missing hfirst hsecond
    · next path hfind =>
        have hchosen := findIn_eq_some_iff.1 hfind
        split at h
        · next cause hread =>
            obtain rfl := FileTree.read_of_isFile hchosen.isFile hread
            cases h
            exact .unreadable hchosen hread
        · next text hread =>
            split at h
            · cases h
            · next reason htext =>
                cases h
                exact .malformed hchosen hread htext
  · intro h
    cases h with
    | missing hfirst hsecond =>
        have hfind : location.findIn t = none :=
          findIn_eq_none_iff.2 ⟨hfirst, hsecond⟩
        unfold loadFrom
        rw [hfind]
    | @unreadable path hchosen hread =>
        have hfind : location.findIn t = some path :=
          findIn_eq_some_iff.2 hchosen
        unfold loadFrom
        simp only [hfind, hread]
    | @malformed path text reason hchosen hread htext =>
        have hfind : location.findIn t = some path :=
          findIn_eq_some_iff.2 hchosen
        unfold loadFrom
        simp only [hfind, hread, htext]

end Location

-- ============================================================== selection

namespace TemplateOrigin

/-- The template that an origin leads to: that of the language in any
case, or what is in the file. -/
inductive Selects (t : FileTree) (language : String) :
    TemplateOrigin → NamedTemplate → Prop
  | builtIn {target : Language}
      (hname : lowerCase language = lowerCase target.name) :
      Selects t language .builtIn target.namedTemplate
  | file {path source : String} {extension : Option String}
      (hread : t.read path = .ok source) :
      Selects t language (.file path extension)
        ⟨.ofExtension (extension.getD plainExtension), source⟩

/-- How selection fails. -/
inductive FailsWith (t : FileTree) (language : String) :
    TemplateOrigin → GenerationError → Prop
  /-- No built-in template is for the language. -/
  | unsupported (htypeScript : lowerCase language ≠ "typescript".toList)
      (hjava : lowerCase language ≠ "java".toList) :
      FailsWith t language .builtIn (.unsupportedLanguage language)
  /-- The file of the template cannot be read. -/
  | unreadable {path : String} {extension : Option String}
      {cause : DiskError} (hread : t.read path = .error cause) :
      FailsWith t language (.file path extension)
        (.unreadableTemplate path cause)

variable {language : String} {origin : TemplateOrigin}

/-- Selection gives one template. -/
theorem selectFrom_eq_ok_iff {entries : List NamedTemplate} :
    origin.selectFrom t language = .ok entries
      ↔ ∃ entry, entries = [entry] ∧ origin.Selects t language entry := by
  constructor
  · intro h
    cases origin with
    | builtIn =>
        cases hname : Language.ofName? language with
        | none => rw [selectFrom, hname] at h; cases h
        | some target =>
            rw [selectFrom, hname] at h
            cases h
            exact ⟨_, rfl, .builtIn (Language.ofName?_eq_some_iff.1 hname)⟩
    | file path extension =>
        cases hread : t.read path with
        | error cause => rw [selectFrom, hread] at h; cases h
        | ok source =>
            rw [selectFrom, hread] at h
            cases h
            exact ⟨_, rfl, .file hread⟩
  · rintro ⟨entry, rfl, h⟩
    cases h with
    | builtIn hname => rw [selectFrom, Language.ofName?_eq_some_iff.2 hname]
    | file hread => rw [selectFrom, hread]

/-- A text names no language if it is neither of the two names. -/
theorem ofName?_eq_none_iff :
    Language.ofName? language = none
      ↔ lowerCase language ≠ "typescript".toList
        ∧ lowerCase language ≠ "java".toList := by
  have htypeScript : lowerCase Language.typeScript.name
      = "typescript".toList := by
    decide
  have hjava : lowerCase Language.java.name = "java".toList := by decide
  rw [Option.eq_none_iff_forall_ne_some]
  constructor
  · intro h
    constructor
    · exact fun hname => h .typeScript (Language.ofName?_eq_some_iff.2
        (hname.trans htypeScript.symm))
    · exact fun hname => h .java (Language.ofName?_eq_some_iff.2
        (hname.trans hjava.symm))
  · rintro ⟨hnotTypeScript, hnotJava⟩ target htarget
    have hname := Language.ofName?_eq_some_iff.1 htarget
    cases target with
    | typeScript => exact hnotTypeScript (hname.trans htypeScript)
    | java => exact hnotJava (hname.trans hjava)

/-- Selection fails in the given ways and in no other. -/
theorem selectFrom_eq_error_iff :
    origin.selectFrom t language = .error e
      ↔ origin.FailsWith t language e := by
  constructor
  · intro h
    cases origin with
    | builtIn =>
        cases hname : Language.ofName? language with
        | some target => rw [selectFrom, hname] at h; cases h
        | none =>
            rw [selectFrom, hname] at h
            cases h
            obtain ⟨htypeScript, hjava⟩ := ofName?_eq_none_iff.1 hname
            exact .unsupported htypeScript hjava
    | file path extension =>
        cases hread : t.read path with
        | ok source => rw [selectFrom, hread] at h; cases h
        | error cause =>
            rw [selectFrom, hread] at h
            cases h
            exact .unreadable hread
  · intro h
    cases h with
    | unsupported htypeScript hjava =>
        rw [selectFrom, ofName?_eq_none_iff.2 ⟨htypeScript, hjava⟩]
    | unreadable hread => rw [selectFrom, hread]

end TemplateOrigin

-- ================================================================= output

/-- What a template that is the only one renders to over data. -/
def Template.renderOnly (template : Template) (data : Json) :
    Except Template.RenderError String :=
  Template.render (OutputFile.templateName 0)
    [(OutputFile.templateName 0, template)] template data

/-- How a template fails that is rendered over some subjects. -/
inductive NamedTemplate.FailsWith (entry : NamedTemplate)
    (subjects : List (String × Json)) : GenerationError → Prop
  /-- The source is no template. -/
  | compilation {fault : Template.Fault}
      (hsource : Template.ofSource entry.source = .error fault) :
      FailsWith entry subjects (.compilation fault)
  /-- The template cannot be rendered over a subject, and can over those
  before. -/
  | rendering {template : Template} {front back : List (String × Json)}
      {subject : String × Json} {cause : Template.RenderError}
      (hsource : Template.ofSource entry.source = .ok template)
      (hsubjects : subjects = front ++ subject :: back)
      (hfront : ∀ other ∈ front, ∃ text,
        template.renderOnly other.2 = .ok text)
      (hrender : template.renderOnly subject.2 = .error cause) :
      FailsWith entry subjects (.rendering cause)

namespace OutputFile

theorem ofSubject_eq_error_iff {name : String}
    {templates : Fields Template} {template : Template}
    {fileName : NamePattern} {subject : String × Json} :
    ofSubject name templates template fileName subject = .error e
      ↔ ∃ cause, Template.render name templates template subject.2
          = .error cause ∧ e = .rendering cause := by
  unfold ofSubject
  cases Template.render name templates template subject.2 with
  | error cause => simp [eq_comm]
  | ok text => simp

/-- One template fails in the given ways and in no other. -/
theorem ofModels_eq_error_iff {entry : NamedTemplate} {models : Models}
    {document : String} {grouping : Grouping} :
    ofModels [entry] models document grouping = .error e
      ↔ entry.FailsWith (models.subjects grouping document) e := by
  rw [ofModels, ofTemplates_singleton]
  simp only [bind_eq_error_iff, mapError_eq_ok_iff, mapError_eq_error_iff,
    mapM_eq_error_iff, exists_ofSubject_iff, ofSubject_eq_error_iff]
  constructor
  · rintro (⟨fault, hsource, rfl⟩ | ⟨template, hsource, front, subject,
      back, hsubjects, hfront, cause, hrender, rfl⟩)
    · exact .compilation hsource
    · exact .rendering hsource hsubjects hfront hrender
  · rintro (hsource | ⟨hsource, hsubjects, hfront, hrender⟩)
    · exact .inl ⟨_, hsource, rfl⟩
    · exact .inr ⟨_, hsource, _, _, _, hsubjects, hfront, _, hrender,
        rfl⟩

end OutputFile

namespace Language

/-- A built-in template is one. -/
theorem not_compilation_namedTemplate (language : Language)
    (subjects : List (String × Json)) (fault : Template.Fault) :
    ¬language.namedTemplate.FailsWith subjects (.compilation fault) := by
  have hread : Template.ofSource language.namedTemplate.source
      = .ok language.elements := Language.ofSource_template language
  intro h
  cases h with
  | compilation hsource =>
      rw [hread] at hsource
      cases hsource

/-- A built-in template can be rendered over proper models, unless it is
the one for all models and rendered over each of them, and a model has
something that cannot be rendered in their place. -/
theorem rendering_namedTemplate_iff (language : Language)
    {models : Models} (hproper : ∀ entry ∈ models, entry.2.Proper)
    (grouping : Grouping) (document : String) :
    (∃ cause, language.namedTemplate.FailsWith
        (models.subjects grouping document) (.rendering cause))
      ↔ language = .typeScript ∧ grouping = .perModel
        ∧ ∃ entry ∈ models, ¬entry.2.ListLike := by
  have hfiles := OutputFile.exists_ofModels_namedTemplate_iff hproper
    language document grouping
  cases houtput : OutputFile.ofModels [language.namedTemplate] models
      document grouping with
  | ok files =>
      have hlike := hfiles.1 ⟨files, houtput⟩
      constructor
      · rintro ⟨cause, h⟩
        rw [OutputFile.ofModels_eq_error_iff.2 h] at houtput
        cases houtput
      · rintro ⟨hlanguage, hgrouping, entry, hentry, hunlike⟩
        exact absurd (hlike hlanguage hgrouping entry hentry) hunlike
  | error e =>
      have hunlike := hfiles.not.1 (by
        rw [houtput]
        rintro ⟨_, ⟨⟩⟩)
      push Not at hunlike
      refine iff_of_true ?_ hunlike
      cases OutputFile.ofModels_eq_error_iff.1 houtput with
      | compilation hsource =>
          exact (language.not_compilation_namedTemplate
            (models.subjects grouping document) _
            (.compilation hsource)).elim
      | rendering hsource hsubjects hfront hrender =>
          exact ⟨_, .rendering hsource hsubjects hfront hrender⟩

end Language

-- ============================================================== generation

namespace Options

/-- How generation fails: a stage fails when all before it succeed. -/
inductive FailsWith (t : FileTree) (options : Options)
    (e : GenerationError) : Prop
  | loading (h : options.document.FailsWith t e)
  | selection {models : Models} (hload : options.document.Loads t models)
      (h : options.template.FailsWith t options.language e)
  | output {models : Models} {entry : NamedTemplate}
      (hload : options.document.Loads t models)
      (hselect : options.template.Selects t options.language entry)
      (h : entry.FailsWith
        (models.subjects options.grouping options.document.name) e)

variable {options : Options}

theorem generateFrom_eq_error_iff :
    options.generateFrom t = .error e ↔ options.FailsWith t e := by
  unfold generateFrom
  simp only [bind_eq_error_iff, Location.loadFrom_eq_error_iff,
    Location.loadFrom_eq_ok_iff_loads,
    TemplateOrigin.selectFrom_eq_error_iff,
    TemplateOrigin.selectFrom_eq_ok_iff]
  constructor
  · rintro (h | ⟨models, hload, h | ⟨_, ⟨entry, rfl, hselect⟩, h⟩⟩)
    · exact .loading h
    · exact .selection hload h
    · exact .output hload hselect (OutputFile.ofModels_eq_error_iff.1 h)
  · rintro (h | ⟨hload, h⟩ | ⟨hload, hselect, h⟩)
    · exact .inl h
    · exact .inr ⟨_, hload, .inl h⟩
    · exact .inr ⟨_, hload, .inr ⟨_, ⟨_, rfl, hselect⟩,
        OutputFile.ofModels_eq_error_iff.2 h⟩⟩

/-- A built-in template is not what is wrong. -/
theorem not_compilation_of_builtIn (htemplate : options.template = .builtIn)
    (fault : Template.Fault) :
    ¬options.FailsWith t (.compilation fault) := by
  intro h
  cases h with
  | loading h => cases h
  | selection _ h =>
      rw [htemplate] at h
      cases h
  | output _ hselect h =>
      rw [htemplate] at hselect
      cases hselect with
      | @builtIn target =>
          exact target.not_compilation_namedTemplate _ _ h

/-- What a document declares is wrong for a built-in template only if it is
that of TypeScript, and rendered over each model. -/
theorem rendering_iff_of_builtIn (htemplate : options.template = .builtIn) :
    (∃ cause, options.FailsWith t (.rendering cause))
      ↔ lowerCase options.language = "typescript".toList
        ∧ options.grouping = .perModel
        ∧ ∃ models, options.document.Loads t models
          ∧ ∃ entry ∈ models, ¬entry.2.ListLike := by
  have htypeScript : lowerCase Language.typeScript.name
      = "typescript".toList := by
    decide
  have hproper : ∀ models, options.document.Loads t models →
      ∀ entry ∈ models, entry.2.Proper :=
    fun _ hload _ => Location.proper_of_loadFrom
      (Location.loadFrom_eq_ok_iff_loads.2 hload)
  constructor
  · rintro ⟨cause, h⟩
    cases h with
    | loading h => cases h
    | selection _ h =>
        rw [htemplate] at h
        cases h
    | @output models entry hload hselect h =>
        rw [htemplate] at hselect
        cases hselect with
        | @builtIn target hname =>
            obtain ⟨rfl, hgrouping, hunlike⟩ :=
              (target.rendering_namedTemplate_iff (hproper models hload)
                _ _).1 ⟨cause, h⟩
            exact ⟨hname.trans htypeScript, hgrouping, models, hload,
              hunlike⟩
  · rintro ⟨hname, hgrouping, models, hload, hunlike⟩
    have hselect : options.template.Selects t options.language
        Language.typeScript.namedTemplate := by
      rw [htemplate]
      exact .builtIn (hname.trans htypeScript.symm)
    obtain ⟨cause, h⟩ :=
      (Language.typeScript.rendering_namedTemplate_iff
        (hproper models hload) options.grouping
        options.document.name).2 ⟨rfl, hgrouping, hunlike⟩
    exact ⟨cause, .output hload hselect h⟩

/-- Generation fails in the given ways and in no other. With the template
in a file it does not depend on the language. With a built-in template it
is never the template that is wrong, and what is declared only if the
template of TypeScript is rendered over each model and one of them cannot
be rendered in the place of all. -/
theorem generate_eq_error_iff (t : FileTree) (options : Options) :
    (∀ e, (StateT.run (options.generate (m := OnTree)) t).1 = .error e
        ↔ options.FailsWith t e)
      ∧ (∀ path extension language,
          options.template = .file path extension →
          StateT.run ({ options with language }.generate (m := OnTree)) t
            = StateT.run (options.generate (m := OnTree)) t)
      ∧ (options.template = .builtIn →
          (∀ fault, ¬options.FailsWith t (.compilation fault))
          ∧ ((∃ cause, options.FailsWith t (.rendering cause))
            ↔ lowerCase options.language = "typescript".toList
              ∧ options.grouping = .perModel
              ∧ ∃ models, options.document.Loads t models
                ∧ ∃ entry ∈ models, ¬entry.2.ListLike)) := by
  refine ⟨?_, ?_, fun htemplate =>
    ⟨not_compilation_of_builtIn htemplate,
      rendering_iff_of_builtIn htemplate⟩⟩
  · intro e
    rw [generate_fst, generateFrom_eq_error_iff]
  · intro path extension language htemplate
    have hselect : ∀ language, TemplateOrigin.selectFrom t language
        options.template = TemplateOrigin.selectFrom t options.language
          options.template := by
      intro language
      rw [htemplate]
      rfl
    rw [generate_run, generate_run, generateFrom, generateFrom, hselect]

/-- A tree with two documents, of which the first holds no text. -/
def halfReadable : FileTree where
  here := []
  entries :=
    [(["a.yml"], .file (.bytes [0xff])),
      (["a.yaml"], .file (.text "components:\n schemas: \x7b\x7d\n"))]

/-- A tree with a document whose model has a list of lists where the
template for all models looks for models. -/
def misleading : FileTree where
  here := []
  entries :=
    [(["a.yml"], .file (.text
      "components:\n schemas:\n  A:\n   models: [[]]\n"))]

/-- A document that cannot be read is reported before anything else that
is wrong, and a misleading model is an error for the template for all
models only. -/
theorem generate_eq_error_iff_misleading :
    (StateT.run ((⟨⟨"", "a"⟩, "cobol", .file "gone" none,
        .perModel⟩ : Options).generate (m := OnTree)) halfReadable).1
      = .error (.documentNotFound "a.yml")
      ∧ (∃ cause, (StateT.run ((⟨⟨"", "a"⟩, "TypeScript", .builtIn,
          .perModel⟩ : Options).generate (m := OnTree)) misleading).1
        = .error (.rendering cause))
      ∧ ∀ cause, (StateT.run ((⟨⟨"", "a"⟩, "Java", .builtIn,
          .perModel⟩ : Options).generate (m := OnTree)) misleading).1
        ≠ .error (.rendering cause) := by
  refine ⟨?_, ?_, ?_⟩
  · rw [(generate_eq_error_iff _ _).1]
    have hpath : Location.documentPath ⟨"", "a"⟩ = "a.yml" := by decide
    rw [← hpath]
    exact .loading (.unreadable (.first (by decide +kernel))
      (by decide +kernel))
  · have hpasses : passes
        (fun models => models.any fun entry => decide ¬entry.2.ListLike)
        (Location.loadFrom misleading ⟨"", "a"⟩) = true := by
      decide +kernel
    obtain ⟨models, hload, hunlike⟩ := exists_of_passes hpasses
    obtain ⟨entry, hentry, hunlike⟩ := List.any_eq_true.1 hunlike
    have hiff := (generate_eq_error_iff misleading
      ⟨⟨"", "a"⟩, "TypeScript", .builtIn, .perModel⟩).2.2 rfl
    obtain ⟨cause, h⟩ := hiff.2.2 ⟨by decide, rfl, models,
      Location.loadFrom_eq_ok_iff_loads.1 hload, entry, hentry,
      of_decide_eq_true hunlike⟩
    exact ⟨cause, ((generate_eq_error_iff _ _).1 _).2 h⟩
  · intro cause h
    rw [(generate_eq_error_iff _ _).1] at h
    have hlanguage := (((generate_eq_error_iff misleading
      ⟨⟨"", "a"⟩, "Java", .builtIn, .perModel⟩).2.2 rfl).2.1 ⟨cause, h⟩).1
    exact absurd hlanguage (by decide)

end Options

end SchemaPress
