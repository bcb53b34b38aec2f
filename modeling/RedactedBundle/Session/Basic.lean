import RedactedBundle.Document
import RedactedBundle.Files.Listing
import RedactedBundle.Files.NamePattern
import RedactedBundle.Source.OfText
import RedactedBundle.Source.Outline
import RedactedBundle.Template.Render
import RedactedBundle.Toml.Fault

/-!
# Sessions

A session is one listed folder with at most one open file, the names hidden in it, and the
snapshots staged so far. What is shown of the open file is its source, redacted by the hidden
names.

## Main definitions

- `OpenFile`, `Session`: the state of a session
- `Session.startReading`, `Session.start`: a session over a folder
- `Session.openFile`, `Session.setClass`, `Session.setMethod`, `Session.toggle`,
  `Session.stage`: what changes it
- `Session.document`, `Session.save`, `Session.copy`: what it is good for
-/

namespace RedactedBundle

/-- The file that is shown. -/
structure OpenFile where
  name : String
  path : Path
  /-- The source as it was read; every redaction starts from it. -/
  source : Source
  outline : List OutlineRow
  /-- The source under the names hidden now. -/
  shown : String
  deriving Repr, Inhabited

/-- The state of one listed folder. -/
structure Session where
  /-- How the text of a file is read into a syntax tree, or why it cannot be. -/
  treeOf : String → Except Failure Node
  listing : Listing
  /-- The document's file, taken from the listed folder. -/
  outputFile : String
  placeholders : Placeholders
  options : DocumentOptions
  current : Option OpenFile
  hidden : Hidden
  bundle : Bundle
  /-- A remembered address of the project, without any use so far. -/
  url : Option String
  deriving Inhabited

namespace Session

variable [PatternLanguage] [TemplateEngine]

/-- What is shown for a listed file that is missing. -/
def missingSource : String := "public class Fake \x7b void Test() \x7b\x7d \x7d"

/-- A session over a folder, with nothing open, hidden or staged, that reads files in a given
way. -/
def startReading (treeOf : String → Except Failure Node) (fs : FileSystem) (root : Path)
    (settings : Settings) : Except Failure Session :=
  match Listing.scan fs root settings.project.patterns settings.project.placeholderFile with
  | .error fault => .error (.listing fault)
  | .ok listing =>
    .ok
      { treeOf
        listing
        outputFile := settings.project.outputFile
        placeholders := settings.placeholders
        options := settings.documentOptions
        current := none
        hidden := Hidden.empty
        bundle := Bundle.empty
        url := none }

/-- A session over a folder, with nothing open, hidden or staged. -/
def start (fs : FileSystem) (root : Path) (settings : Settings) : Except Failure Session :=
  startReading (fun text => .ok (Node.ofText text)) fs root settings

/-- What is shown of the open file; the empty text if there is none. -/
def shown (session : Session) : String := (session.current.map OpenFile.shown).getD ""

/-- Where the document is saved. -/
def outputPath (session : Session) : Path :=
  session.listing.root.join (.ofString session.outputFile)

/-- The text of a listed file, or a stand-in if its path does not lead to a regular file. -/
def readListed (fs : FileSystem) (file : SourceFile) : Except Failure String :=
  if fs.isFile file.path then
    match fs.readSource file.path with
    | .ok text => .ok text
    | .error error => .error (.access .source file.path error)
  else .ok missingSource

/-- A listed file with its source, shown with nothing hidden. -/
def opened (session : Session) (file : SourceFile) (source : Source) : OpenFile :=
  { name := file.name
    path := file.path
    source
    outline := source.outline
    shown := source.redact session.placeholders Hidden.empty }

/-- Opens a listed file by its name. Nothing is hidden in it. -/
def openFile (session : Session) (fs : FileSystem) (name : String) : Except Failure Session :=
  match session.listing.find? name with
  | none => .error (.unknownFile name)
  | some file => do
    let text ← readListed fs file
    let tree ← session.treeOf text
    return { session with
      current := some (session.opened file (Source.ofNode text tree))
      hidden := Hidden.empty }

/-- The session with other hidden names, by which the open file is shown anew. -/
def withHidden (session : Session) (hidden : Hidden) : Session :=
  { session with
    hidden
    current := session.current.map fun file =>
      { file with shown := file.source.redact session.placeholders hidden } }

/-- Hides or shows the classes of a name. -/
def setClass (session : Session) (name : String) (hide : Bool) : Session :=
  session.withHidden (session.hidden.setClass name hide)

/-- Hides or shows the methods of a name. -/
def setMethod (session : Session) (name : String) (hide : Bool) : Session :=
  session.withHidden (session.hidden.setMethod name hide)

/-- The session, which fails if no file is open in it. -/
def ensureOpen (session : Session) : Except Failure Session :=
  match session.current with
  | some _ => .ok session
  | none => .error .noOpenFile

/-- Hides the classes of a name in the open file. -/
def hideClass (session : Session) (name : String) : Except Failure Session :=
  (session.setClass name true).ensureOpen

/-- Hides the methods of a name in the open file. -/
def hideMethod (session : Session) (name : String) : Except Failure Session :=
  (session.setMethod name true).ensureOpen

/-- What a row stands for is hidden. -/
def isHidden (session : Session) : OutlineRow → Bool
  | .class name _ _ => name ∈ session.hidden.classes
  | .method name _ _ => name ∈ session.hidden.methods

/-- Hides what a row stands for, or shows it if it is hidden. -/
def toggle (session : Session) (row : OutlineRow) : Session :=
  let hide := !session.isHidden row
  match row with
  | .class name _ _ => session.setClass name hide
  | .method name _ _ => session.setMethod name hide

/-- Stages what is shown of the open file, which must not be empty. -/
def stage (session : Session) : Except Failure Session :=
  match session.current with
  | none => .error .noOpenFile
  | some file =>
    if file.shown = "" then .error .emptyDisplay
    else .ok { session with bundle := session.bundle.stage ⟨file.name, file.shown⟩ }

/-- Remembers an address of the project. -/
def setUrl (session : Session) (url : String) : Session := { session with url := some url }

/-- The document of the staged snapshots. -/
def document (session : Session) (fs : FileSystem) : Except Failure String :=
  session.options.render fs session.bundle

/-- Saves the document in the listed folder; `none` if nothing is staged. -/
def save (session : Session) (fs : FileSystem) : Except Failure (Option FileSystem) :=
  session.options.save fs session.bundle session.outputPath

/-- Hands the document to a clipboard. -/
def copy (session : Session) (fs : FileSystem) (clipboard : Clipboard) :
    Except Failure DocumentOptions.Copying :=
  session.options.copy fs session.bundle clipboard

end Session

end RedactedBundle
