import RedactedBundle.FileList
import RedactedBundle.Preview
import RedactedBundle.Prompt
import RedactedBundle.Session.Operation

/-!
# The interactive view

The interactive view shows a session in panels: the files of its folder, the outline and the
preview of the open file, the staged snapshots, and a line for the outcome of the last action.

## Main definitions

- `App`: the state of the view
- `App.startReading`, `App.start`, `App.launch`: the view of a folder
- `App.openFolder`: going on with another folder
-/

namespace RedactedBundle

/-- The panel that keys go to. -/
inductive Focus where
  | files
  | outline
  | preview
  deriving Repr, DecidableEq, Inhabited

/-- The panel after another. -/
def Focus.next : Focus → Focus
  | .files => .outline
  | .outline => .preview
  | .preview => .files

/-- The panel before another. -/
def Focus.previous : Focus → Focus
  | .files => .preview
  | .outline => .files
  | .preview => .outline

@[simp] theorem Focus.previous_next (focus : Focus) : focus.next.previous = focus := by
  cases focus <;> rfl

@[simp] theorem Focus.next_previous (focus : Focus) : focus.previous.next = focus := by
  cases focus <;> rfl

/-- How an action ended. -/
inductive StatusLevel where
  | info
  | success
  | error
  deriving Repr, DecidableEq, Inhabited

/-- What is told about the last action. -/
structure Status where
  level : StatusLevel
  text : String
  deriving Repr, DecidableEq, Inhabited

/-- What stays the same as long as the view is open. -/
structure Host where
  environment : Environment
  segmenter : Segmenter
  /-- The settings file named on the command line. -/
  config : Option Path
  deriving Inhabited

/-- The state of the interactive view. -/
structure App where
  host : Host
  /-- The settings for the folder. -/
  settings : Settings
  place : Workplace
  /-- The theme that previews are made in. -/
  previewTheme : String
  /-- The preview of the open file. -/
  preview : Option Preview
  /-- The number of the preview's lines that are scrolled past. -/
  scroll : Nat
  files : FileList
  /-- The outline of the open file. -/
  outline : Picker OutlineRow
  prompt : Prompt
  status : Option Status
  focus : Focus
  /-- The view is to be left. -/
  quit : Bool
  deriving Inhabited

namespace App

variable [PatternLanguage] [TomlReader]

def session (app : App) : Session := app.place.session

/-- The view of a folder by its settings, with nothing open, that reads files in a given way. -/
def startReading (treeOf : String → Except Failure Node) (host : Host) (fs : FileSystem)
    (clipboard : Clipboard) (root : Path) (settings : Settings) : Except Failure App :=
  (Session.startReading treeOf fs root settings).map fun session =>
    { host
      settings
      place := ⟨session, fs, clipboard⟩
      previewTheme := settings.theme
      preview := none
      scroll := 0
      files := .ofListing session.listing
      outline := .ofList []
      prompt := .closed
      status := none
      focus := .files
      quit := false }

/-- The view of a folder by its settings, with nothing open. -/
def start (host : Host) (fs : FileSystem) (clipboard : Clipboard) (root : Path)
    (settings : Settings) : Except Failure App :=
  startReading (fun text => .ok (Node.ofText text)) host fs clipboard root settings

/-- Remembers an address of the project. -/
def setUrl (app : App) (url : String) : App :=
  { app with place := { app.place with session := app.session.setUrl url } }

/-- The view of a folder with an address of the project, both as named on the command line. The
folder is the one that relative paths start from if none is named. -/
def launch (host : Host) (fs : FileSystem) (clipboard : Clipboard) (folder : Option Path)
    (url : Option String) : Except Failure App :=
  (folder.elim fs.workingFolder .ok).bind fun root =>
    (Settings.load fs host.environment root host.config).bind fun settings =>
      (start host fs clipboard root settings).map fun app =>
        match url with
        | some url => app.setUrl url
        | none => app

/-- The view over other files. -/
def withFiles (app : App) (fs : FileSystem) : App :=
  { app with place := { app.place with files := fs } }

/-- What stands in the first line: the folder and the open file. -/
def header (app : App) : String :=
  let folder := ".../" ++ app.files.label
  match app.session.current with
  | some file => folder ++ "/" ++ file.name
  | none => folder

/-- How many snapshots are staged. -/
def stagedText (app : App) : String := "Files staged: " ++ toString app.session.bundle.size

/-- What stands in the last line. -/
def statusText (app : App) : String := (app.status.map Status.text).getD app.stagedText

/-- Tells about an action. -/
def report (app : App) (level : StatusLevel) (text : String) : App :=
  { app with status := some ⟨level, text⟩ }

/-- The preview made anew from what is shown of the open file. -/
def refreshed (app : App) : App :=
  { app with
    preview := app.session.current.map fun file =>
      .ofText app.host.segmenter app.previewTheme file.name file.shown
        (!app.session.hidden.isEmpty) }

/-- The view of another session, by other settings. -/
def withSession (app : App) (settings : Settings) (session : Session) : App :=
  { app with
    settings
    place := { app.place with session }
    previewTheme := settings.theme
    preview := none
    scroll := 0
    files := .ofListing session.listing
    outline := .ofList []
    focus := .files }

/-- Goes on with another folder, whose files are read in the same way. Only the address of the
project is kept. -/
def openFolder (app : App) (root : Path) : Except Failure App :=
  (Settings.load app.place.files app.host.environment root app.host.config).bind fun settings =>
    (Session.startReading app.session.treeOf app.place.files root settings).map fun session =>
      let app := app.withSession settings { session with url := app.session.url }
      app.report .info
        ("Opened " ++ app.header ++ " (" ++ toString app.files.names.items.length ++ " files)")

end App

end RedactedBundle
