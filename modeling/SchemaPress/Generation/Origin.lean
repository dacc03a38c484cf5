/-
Where a template comes from: it is the built-in one of a language, or it
is in a file.

A file is taken as it is, and the language is not looked at then, since
the template may target anything. The extension of the output goes with
the file; a built-in template has its own.
-/
import SchemaPress.Disk.Basic
import SchemaPress.Generation.Error
import SchemaPress.Generation.FileName
import SchemaPress.Language

namespace SchemaPress

/-- A template's source and how the files from it are named. -/
structure NamedTemplate where
  fileName : NamePattern
  source : String
  deriving DecidableEq, Repr

namespace Language

/-- The extension of a language's files. -/
def extension : Language → String
  | .typeScript => "ts"
  | .java => "java"

/-- The source of the built-in template of a language, line by line. -/
def templateLines : Language → List String
  | .typeScript =>
      ["\x7b\x7b#each models\x7d\x7d",
        "",
        "/**",
        " * \x7b\x7bthis.title\x7d\x7d",
        " *",
        " * \x7b\x7bthis.description\x7d\x7d",
        " */",
        "export interface \x7b\x7bthis.modelName\x7d\x7d \x7b",
        "\x7b\x7b#each this.properties\x7d\x7d",
        "",
        "    /**",
        "     * \x7b\x7b@key\x7d\x7d: \x7b\x7bthis.description\x7d\x7d",
        "     */",
        "    \x7b\x7b@key\x7d\x7d: \x7b\x7bgetTsType this\x7d\x7d;",
        "\x7b\x7b/each\x7d\x7d",
        "\x7d",
        "\x7b\x7b/each\x7d\x7d"]
  | .java =>
      ["import java.util.*;",
        "",
        "/**",
        " * \x7b\x7btitle\x7d\x7d",
        " *",
        " * \x7b\x7bdescription\x7d\x7d",
        " */",
        "public class \x7b\x7bmodelName\x7d\x7d \x7b",
        "\x7b\x7b#each properties\x7d\x7d",
        "",
        "\x7b\x7b#if this.description\x7d\x7d",
        "    /**",
        "     * \x7b\x7bthis.description\x7d\x7d",
        "     */",
        "\x7b\x7b/if\x7d\x7d",
        "    public \x7b\x7b\x7bgetJavaType this\x7d\x7d\x7d \x7b\x7b@key\x7d\x7d;",
        "\x7b\x7b/each\x7d\x7d",
        "\x7d"]

/-- The source of the built-in template of a language. -/
def template (language : Language) : String :=
  String.join (language.templateLines.map (· ++ "\n"))

/-- The built-in template of a language. -/
def namedTemplate (language : Language) : NamedTemplate where
  fileName := .ofExtension language.extension
  source := language.template

end Language

/-- Where a template comes from. -/
inductive TemplateOrigin where
  | builtIn
  /-- A file, and the extension of the output if one is asked for. -/
  | file (path : String) (extension : Option String)
  deriving DecidableEq, Repr

namespace TemplateOrigin

/-- What a user writes for the built-in template. -/
def builtInWord : String := "default"

/-- The extension of output for which none is asked. -/
def plainExtension : String := "txt"

/-- The origin that a user asks for; the built-in template where nothing
is asked for. -/
def ofText : Option String → TemplateOrigin
  | none => .builtIn
  | some text => if text = builtInWord then .builtIn else .file text none

/-- The origin with another extension of the output. A built-in template
keeps its own. -/
def withExtension (extension : Option String) :
    TemplateOrigin → TemplateOrigin
  | .builtIn => .builtIn
  | .file path _ => .file path extension

variable {m : Type → Type} [Monad m] [Disk m]

/-- The templates from an origin, for a language given by its name. -/
def select (language : String) :
    TemplateOrigin → m (Except GenerationError (List NamedTemplate))
  | .builtIn =>
      match Language.ofName? language with
      | some language => return .ok [language.namedTemplate]
      | none => return .error (.unsupportedLanguage language)
  | .file path extension => do
      match ← Disk.read path with
      | .ok source =>
          let fileName := .ofExtension (extension.getD plainExtension)
          return .ok [⟨fileName, source⟩]
      | .error cause => return .error (.unreadableTemplate path cause)

end TemplateOrigin

end SchemaPress
