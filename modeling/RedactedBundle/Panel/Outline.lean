import RedactedBundle.Hidden
import RedactedBundle.Panel.Focus
import RedactedBundle.Picker
import RedactedBundle.Screen.Frame
import RedactedBundle.Screen.Menu
import RedactedBundle.Source.Outline

/-!
# Panel of the outline

The classes and methods of the open file, each with a box that is checked unless it is hidden.

## Main definitions

- `Panel.outline`: draws the panel
-/

namespace RedactedBundle

/-- The box before a row. -/
def OutlineRow.box (isHidden : Bool) : String := if isHidden then "[ ] " else "[x] "

/-- The item of a row: classes are bold and indented by their depth, methods are indented by
four columns. -/
def OutlineRow.item (hidden : Hidden) (row : OutlineRow) : List Phrase :=
  match row with
  | .class name _ depth =>
    [⟨.replicate (2 * depth) ' ', .plain⟩, .ofString (box (name ∈ hidden.classes)) .plain,
      .ofString row.label { bold := true }]
  | .method name _ _ =>
    [.ofString "    " .plain, .ofString (box (name ∈ hidden.methods)) .plain,
      .ofString row.label .plain]

/-- Draws the outline of a file into an area. -/
def Panel.outline (rows : Picker OutlineRow) (hidden : Hidden) (focused : Bool) (area : Area)
    (screen : Screen) : Screen :=
  let frame : Frame := ⟨"Structure", frameStyle focused⟩
  if rows.items.isEmpty then
    screen.writeFramed area frame (.ink .darkGray) [[.ofString "No classes" .plain]]
  else
    (screen.writeFrame area frame).writeMenu area.inside
      { items := rows.items.map (OutlineRow.item hidden)
        chosen := some rows.index
        highlight := chosenStyle focused }

end RedactedBundle
