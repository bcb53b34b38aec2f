import RedactedBundle.Bundle
import RedactedBundle.FileList
import RedactedBundle.Panel.Focus
import RedactedBundle.Screen.Frame
import RedactedBundle.Screen.Menu

/-!
# Panel of the files

The listed files. A plus sign marks the staged ones, and the open one is bold.

## Main definitions

- `Panel.files`: draws the panel
-/

namespace RedactedBundle

/-- The title of the panel. -/
def FileList.title (list : FileList) : String :=
  "Files · " ++ list.label ++ if list.missing then " (missing)" else ""

/-- The item of a file. -/
def FileList.item (bundle : Bundle) (opened : Option String) (name : String) : List Phrase :=
  [.ofString (if bundle.contains name then "+ " else "  ") (.ink .green),
    .ofString name { bold := opened = some name }]

/-- Draws the files of a folder into an area. -/
def Panel.files (list : FileList) (bundle : Bundle) (opened : Option String) (focused : Bool)
    (area : Area) (screen : Screen) : Screen :=
  let frame : Frame := ⟨list.title, frameStyle focused⟩
  if list.names.items.isEmpty then
    screen.writeFramed area frame { Style.ink .darkGray with italic := true }
      [[.ofString "No matching files" .plain]]
  else
    (screen.writeFrame area frame).writeMenu area.inside
      { items := list.names.items.map (FileList.item bundle opened)
        chosen := some list.names.index
        highlight := chosenStyle focused
        marker := "▸ ".toList }

end RedactedBundle
