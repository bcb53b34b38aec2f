import RedactedBundle.Settings.Basic
import RedactedBundle.Toml.Reader

/-!
# Settings from TOML

The settings of one layer are read from a TOML document. A section is a table; an array in its
place gives the values in order. Keys that are not known are passed over, and a value of the
wrong sort makes the layer invalid.

## Main definitions

- `Settings.ofToml?`: the settings of a document
-/

namespace RedactedBundle

namespace Settings

open Toml (Value)

/-- The values of a section, by their keys or in order. -/
inductive Section where
  | keyed (entries : List (String × Value))
  | ordered (values : List Value)

/-- The section under a key; an empty one if the key is missing. A date stands for a section
that sets nothing. -/
def section? (document : List (String × Value)) (key : String) : Option Section :=
  match Toml.find? key document with
  | none => some (.keyed [])
  | some (.table entries) => some (.keyed entries)
  | some (.array values) => some (.ordered values)
  | some (.datetime _) => some (.keyed [])
  | some _ => none

/-- The value of a section with a key and a place in the order. -/
def Section.value? (key : String) (place : Nat) : Section → Option Value
  | .keyed entries => Toml.find? key entries
  | .ordered values => values[place]?

/-- A text of a section, if it is there; fails if it is something else. -/
def Section.text? (s : Section) (key : String) (place : Nat) : Option (Option String) :=
  match s.value? key place with
  | none => some none
  | some (.string text) => some (some text)
  | some _ => none

/-- Texts in an array; fails if one is something else. -/
def texts? : List Value → Option (List String)
  | [] => some []
  | .string text :: rest => (texts? rest).map (text :: ·)
  | _ :: _ => none

/-- An array of texts of a section, if it is there; fails if it is something else. -/
def Section.texts? (s : Section) (key : String) (place : Nat) : Option (Option (List String)) :=
  match s.value? key place with
  | none => some none
  | some (.array values) => (Settings.texts? values).map some
  | some _ => none

/-- The settings of a document. -/
def ofToml? [TomlReader] (cs : List Char) : Option Settings := do
  let document ← TomlReader.parse? cs
  let project ← section? document "project"
  let redaction ← section? document "redaction"
  let layout ← section? document "export"
  let ui ← section? document "ui"
  let patterns ← project.texts? "extensions" 0
  let outputFile ← project.text? "output_file" 1
  let placeholderFile ← project.text? "placeholder_file" 2
  let methodComment ← redaction.text? "method_placeholder" 0
  let classComment ← redaction.text? "class_placeholder" 1
  let title ← layout.text? "title" 0
  let language ← layout.text? "language" 1
  let template ← layout.text? "template" 2
  let theme ← ui.text? "theme" 0
  pure
    { project :=
        { patterns := patterns.getD unset.project.patterns
          outputFile := outputFile.getD unset.project.outputFile
          placeholderFile := placeholderFile.getD unset.project.placeholderFile }
      placeholders :=
        { methodComment := methodComment.getD unset.placeholders.methodComment
          classComment := classComment.getD unset.placeholders.classComment }
      document := { title, language, template }
      theme := theme.getD unset.theme }

end Settings

end RedactedBundle
