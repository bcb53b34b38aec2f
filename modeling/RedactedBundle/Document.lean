import RedactedBundle.Bundle
import RedactedBundle.Clipboard
import RedactedBundle.Settings.Layers
import RedactedBundle.Template.Engine

/-!
# Documents

A bundle of snapshots rendered as one document by a template: a built-in one, or one in a file.
An empty bundle has no document, and what renders to nothing counts as nothing staged.

## Main definitions

- `DocumentOptions`: title, language and template of a document
- `DocumentOptions.render`: the document of a bundle
- `DocumentOptions.save`, `DocumentOptions.copy`: where documents go
-/

namespace RedactedBundle

/-- What a document is rendered with. -/
structure DocumentOptions where
  title : String
  /-- The language named at the start of each code block. -/
  language : String
  /-- The name of the built-in template, or the path of a template file. -/
  template : String
  deriving Repr, DecidableEq, Inhabited

/-- The options that settings ask for. -/
def Settings.documentOptions (settings : Settings) : DocumentOptions :=
  ⟨settings.title, settings.language, settings.template⟩

/-- The name under which the template of a file is compiled. -/
def externalTemplate : String := "external"

/-- How handing a document to a clipboard ended. -/
inductive CopyOutcome where
  | copied
  | nothingStaged
  /-- The clipboard refused the document. -/
  | unavailable
  deriving Repr, DecidableEq, Inhabited

namespace DocumentOptions

/-- The values that a template can use. -/
def values (options : DocumentOptions) (bundle : Bundle) : List (String × Template.Value) :=
  [("count", .integer bundle.size),
    ("files", .list (bundle.entries.map fun snapshot =>
      .map [("contents", .string snapshot.text), ("name", .string snapshot.name)])),
    ("language", .string options.language),
    ("title", .string options.title)]

/-- The template: the built-in one if it has its name, else that of a file. -/
def templateSource (options : DocumentOptions) (fs : FileSystem) :
    Except Failure TemplateSource :=
  let path := Path.ofString options.template
  if options.template = builtinTemplate then .ok ⟨builtinTemplate, markdownTemplate⟩
  else if fs.holds path then
    match fs.readText path with
    | .ok cs => .ok ⟨externalTemplate, String.ofList cs⟩
    | .error error => .error (.access .template path error)
  else .error (.templateNotFound options.template)

variable [TemplateEngine]

/-- A bundle rendered by a template. -/
def renderBy (options : DocumentOptions) (source : TemplateSource) (bundle : Bundle) :
    Except Failure String :=
  match TemplateEngine.compile? true true source.name source.text with
  | none => .error (.invalidTemplate options.template)
  | some template =>
    match template (options.values bundle) with
    | none => .error (.templateFailed options.template)
    | some document => .ok document

/-- The document of a bundle; the empty text for an empty bundle, whatever the template. -/
def render (options : DocumentOptions) (fs : FileSystem) (bundle : Bundle) :
    Except Failure String :=
  if bundle.isEmpty then .ok ""
  else (options.templateSource fs).bind fun source => options.renderBy source bundle

/-- Writes the document to a path; `none` without writing if there is nothing to write. -/
def save (options : DocumentOptions) (fs : FileSystem) (bundle : Bundle) (path : Path) :
    Except Failure (Option FileSystem) :=
  (options.render fs bundle).bind fun document =>
    -- A template that renders to nothing is not told apart from an empty bundle.
    if document = "" then .ok none
    else
      match fs.write path (Utf8.encode document.toList) with
      | .ok fs => .ok (some fs)
      | .error error => .error (.access .document path error)

/-- What copying a document leads to. -/
structure Copying where
  outcome : CopyOutcome
  clipboard : Clipboard
  files : FileSystem
  deriving Inhabited

/-- Hands the document to a clipboard, unless there is nothing to copy. -/
def copy (options : DocumentOptions) (fs : FileSystem) (bundle : Bundle) (clipboard : Clipboard) :
    Except Failure Copying :=
  (options.render fs bundle).map fun document =>
    if document = "" then ⟨.nothingStaged, clipboard, fs⟩
    else
      let (fs, taken) := clipboard.offer fs document
      ⟨if taken then .copied else .unavailable, clipboard.record document, fs⟩

end DocumentOptions

end RedactedBundle
