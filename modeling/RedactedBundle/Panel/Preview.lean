import RedactedBundle.Panel.Focus
import RedactedBundle.Preview
import RedactedBundle.Screen.Frame
import RedactedBundle.Text.Wrap

/-!
# Panel of the preview

The text of the open file with numbered lines, scrolled by a number of lines.

## Main definitions

- `Panel.preview`: draws the panel
- `Panel.noPreview`: draws what stands there while no file is open
-/

namespace RedactedBundle

namespace Preview

/-- The title of the panel. -/
def title (preview : Preview) : String :=
  preview.fileName ++ " (" ++ toString preview.lineCount ++ " lines)" ++
    if preview.redacted then " · redacted" else ""

/-- The number of a line, with four columns or more. -/
def lineNumber (n : Nat) : List Char :=
  let digits := (toString n).toList
  .replicate (4 - digits.length) ' ' ++ digits

/-- A line with its number. -/
def numberedLine (line : StyledLine) (n : Nat) : List Phrase :=
  ⟨lineNumber n ++ " │ ".toList, .ink .darkGray⟩ ::
    line.map fun span => ⟨span.text, span.style.onScreen⟩

/-- The numbered lines, or a remark if there is none. -/
def numberedLines (preview : Preview) : List (List Phrase) :=
  if preview.highlighted.lines.isEmpty then [[.ofString "(empty file)" (.ink .darkGray)]]
  else (preview.highlighted.lines.zipIdx 1).map fun (line, n) => numberedLine line n

end Preview

namespace Panel

/-- Draws a preview into an area, without its first lines. -/
def preview (preview : Preview) (scroll : Nat) (focused : Bool) (area : Area) (screen : Screen) :
    Screen :=
  screen.writeFramed area ⟨preview.title, frameStyle focused⟩ .plain
    (preview.numberedLines.drop scroll)

/-- Draws what stands in the place of a preview. -/
def noPreview (area : Area) (screen : Screen) : Screen :=
  screen.writeFramed area ⟨"Preview", frameStyle false⟩
    { Style.ink .darkGray with italic := true }
    ((Text.wrap area.inside.width "Select a file and press enter".toList).map fun line =>
      [⟨line, .plain⟩])

end Panel

end RedactedBundle
