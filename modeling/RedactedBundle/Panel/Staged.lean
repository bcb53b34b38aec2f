import RedactedBundle.Bundle
import RedactedBundle.Screen.Frame
import RedactedBundle.Screen.Menu
import RedactedBundle.Text.Wrap

/-!
# Panel of the staged snapshots

The staged snapshots in the order of the document, each with its number of lines, under their
total number.

## Main definitions

- `Panel.staged`: draws the panel
-/

namespace RedactedBundle

/-- The item of a snapshot. -/
def Snapshot.item (snapshot : Snapshot) : List Phrase :=
  [.ofString snapshot.name .plain,
    .ofString (" – " ++ toString (Text.lines snapshot.text.toList).length ++ " lines")
      (.ink .darkGray)]

/-- The line that tells how many snapshots there are. -/
def Bundle.total (bundle : Bundle) : List Phrase :=
  [.ofString "Total files" (.ink .gray), .ofString ": " .plain,
    .ofString (toString bundle.size) (.ink .cyan)]

namespace Panel

/-- Draws the snapshots of a bundle into an area, which has to have at least two rows for their
total number to be told. -/
def stagedItems (bundle : Bundle) (area : Area) (screen : Screen) : Screen :=
  let head := min 1 (area.height - 1)
  let screen := screen.writeLines { area with height := head } [bundle.total]
  screen.writeMenu (area.dropRows head) { items := bundle.entries.map Snapshot.item }

/-- Draws the staged snapshots into an area. -/
def staged (bundle : Bundle) (area : Area) (screen : Screen) : Screen :=
  let screen := screen.writeFrame area ⟨"Staged", .plain⟩
  let inside := area.inside
  if bundle.isEmpty then
    (screen.restyle inside (.ink .darkGray)).writeLines inside
      ((Text.wrap inside.width "Nothing staged (press a)".toList).map fun line => [⟨line, .plain⟩])
  else stagedItems bundle inside screen

end Panel

end RedactedBundle
