import RedactedBundle.App.Basic
import RedactedBundle.Panel.Files
import RedactedBundle.Panel.Outline
import RedactedBundle.Panel.Preview
import RedactedBundle.Panel.Prompt
import RedactedBundle.Panel.Staged

/-!
# Drawing the interactive view

The first row tells the folder and the open file. Below stand three columns: the files above the
outline, the preview, and the staged snapshots. The last two rows are a line and the status. A
prompt lies over all of it.

## Main definitions

- `Layout`: where the parts of the view stand
- `App.draw`: the view on a screen
-/

namespace RedactedBundle

/-- Where the parts of the view stand. -/
structure Layout where
  header : Area
  files : Area
  outline : Area
  preview : Area
  staged : Area
  status : Area
  deriving Repr, DecidableEq, Inhabited

namespace Layout

/-- The widths of the left and of the right column. -/
def leftWidth : Nat := 32

@[inherit_doc leftWidth]
def rightWidth : Nat := 30

/-- Two fifths of some rows, to the nearest. -/
def upperRows (rows : Nat) : Nat := (rows * 4 + 5) / 10

/-- The layout of a screen. -/
def ofSize (width height : Nat) : Layout :=
  let rows := height - 3
  let upper := upperRows rows
  let middle := width - (leftWidth + rightWidth)
  { header := ⟨0, 0, width, 1⟩
    files := ⟨0, 1, leftWidth, upper⟩
    outline := ⟨0, 1 + upper, leftWidth, rows - upper⟩
    preview := ⟨leftWidth, 1, middle, rows⟩
    staged := ⟨leftWidth + middle, 1, rightWidth, rows⟩
    status := ⟨0, 1 + rows, width, 2⟩ }

end Layout

/-- The colour of a status. -/
def StatusLevel.colour : StatusLevel → Colour
  | .info => .gray
  | .success => .green
  | .error => .red

namespace App

/-- The first line. -/
def headerLine (app : App) : List Phrase :=
  let folder := Phrase.ofString app.header { bold := true }
  match app.session.url with
  | some url => [folder, .ofString ("  (" ++ url ++ ")") (.ink .darkGray)]
  | none => [folder]

/-- The keys and what they do. -/
def keyHints : String :=
  "  ·  enter open · space hide · a stage · s save · y copy · o folder · g url · " ++
    "tab focus · q quit"

/-- The last line: what is told about the last action, or how many snapshots are staged. -/
def statusLine (app : App) : List Phrase :=
  match app.status with
  | some status => Phrase.joinLines status.text (.ink status.level.colour)
  | none => [.ofString app.stagedText (.ink .cyan), .ofString keyHints (.ink .darkGray)]

/-- Draws the last line with a line above it. -/
def drawStatus (app : App) (area : Area) (screen : Screen) : Screen :=
  (screen.writeLine (area.row 0) [⟨.replicate area.width '─', .plain⟩]).writeLine (area.row 1)
    app.statusLine

/-- Draws the preview, or what stands in its place while no file is open. -/
def drawPreview (app : App) (area : Area) (screen : Screen) : Screen :=
  match app.preview with
  | some preview => Panel.preview preview app.scroll (app.focus = .preview) area screen
  | none => Panel.noPreview area screen

/-- The view on a screen of a size. -/
def draw (app : App) (width height : Nat) : Screen :=
  let layout := Layout.ofSize width height
  let session := app.session
  let screen := Screen.blank width height
  let screen := screen.writeLine layout.header app.headerLine
  let screen := Panel.files app.files session.bundle (session.current.map OpenFile.name)
    (app.focus = .files) layout.files screen
  let screen := Panel.outline app.outline session.hidden (app.focus = .outline) layout.outline
    screen
  let screen := app.drawPreview layout.preview screen
  let screen := Panel.staged session.bundle layout.staged screen
  let screen := app.drawStatus layout.status screen
  Panel.prompt app.prompt screen.area screen

end App

end RedactedBundle
