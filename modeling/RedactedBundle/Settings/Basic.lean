import RedactedBundle.Redaction

/-!
# Settings

What the user can set, and how settings of several layers go together: a later layer overrides
an earlier one wherever it differs from the built-in value. The settings for the document have
no value unless a layer mentions them, so for these every mention overrides.

## Main definitions

- `Settings`: the settings of the program
- `Settings.merge`: a layer over another
-/

namespace RedactedBundle

/-- Which files of a folder are listed, and where the document goes. -/
structure ProjectSettings where
  /-- Patterns of the names that are listed. -/
  patterns : List String := ["*.cs"]
  /-- The document, taken from the listed folder. -/
  outputFile : String := "AiContextMulti.md"
  /-- The name that stands in for a folder that is missing. -/
  placeholderFile : String := "FakeFile.cs"
  deriving Repr, DecidableEq, Inhabited

/-- What the document looks like. -/
structure DocumentSettings where
  title : Option String := none
  /-- The language named at the start of each code block. -/
  language : Option String := none
  /-- The name of the built-in template, or the path of a template file. -/
  template : Option String := none
  deriving Repr, DecidableEq, Inhabited

/-- The settings of the program. -/
structure Settings where
  project : ProjectSettings := {}
  placeholders : Placeholders := .standard
  document : DocumentSettings := {}
  theme : String := "base16-ocean.dark"
  deriving Repr, DecidableEq, Inhabited

namespace Settings

/-- The settings of a layer that mentions nothing. -/
def unset : Settings := {}

/-- The settings of the lowest layer. -/
def builtin : Settings :=
  { document := ⟨"Project bundle for AI", "csharp", "bundle_markdown"⟩ }

def title (settings : Settings) : String := settings.document.title.getD "Project bundle for AI"

def language (settings : Settings) : String := settings.document.language.getD "csharp"

def template (settings : Settings) : String := settings.document.template.getD "bundle_markdown"

/-- The value of a later layer, unless it is the built-in one. -/
def choose {α : Type} [DecidableEq α] (standard earlier later : α) : α :=
  if later = standard then earlier else later

/-- The settings of a layer with a later one over it. -/
def merge (earlier later : Settings) : Settings :=
  { project :=
      { patterns := choose unset.project.patterns earlier.project.patterns later.project.patterns
        outputFile :=
          choose unset.project.outputFile earlier.project.outputFile later.project.outputFile
        placeholderFile :=
          choose unset.project.placeholderFile earlier.project.placeholderFile
            later.project.placeholderFile }
    placeholders :=
      { methodComment :=
          choose unset.placeholders.methodComment earlier.placeholders.methodComment
            later.placeholders.methodComment
        classComment :=
          choose unset.placeholders.classComment earlier.placeholders.classComment
            later.placeholders.classComment }
    document :=
      { title := later.document.title.or earlier.document.title
        language := later.document.language.or earlier.document.language
        template := later.document.template.or earlier.document.template }
    theme := choose unset.theme earlier.theme later.theme }

end Settings

end RedactedBundle
