import RedactedBundle.Screen.Text

/-!
# Menus

A menu shows items in rows, one of which may be chosen. It begins with the first item and scrolls
only as far as it takes to show the chosen one.

## Main definitions

- `Menu`: items, with one of them chosen
- `Screen.writeMenu`: draws a menu
-/

namespace RedactedBundle

/-- Items in rows, with one of them chosen or none. -/
structure Menu where
  items : List (List Phrase)
  chosen : Option Nat := none
  /-- Laid over the row of the chosen item. -/
  highlight : Style := {}
  /-- Stands before the chosen item; the others are indented as far. -/
  marker : List Char := []
  deriving Repr, DecidableEq, Inhabited

namespace Menu

/-- The items that are scrolled past in a number of rows. -/
def offset (menu : Menu) (rows : Nat) : Nat :=
  match menu.chosen with
  | some index => index + 1 - rows
  | none => 0

/-- The items shown in a number of rows, with their positions. -/
def visible (menu : Menu) (rows : Nat) : List (List Phrase × Nat) :=
  (menu.items.zipIdx.drop (menu.offset rows)).take rows

theorem length_visible_le (menu : Menu) (rows : Nat) : (menu.visible rows).length ≤ rows := by
  simp only [visible, List.length_take]
  omega

end Menu

namespace Screen

/-- Draws an item of a menu into a row. -/
def writeItem (menu : Menu) (row : Area) (item : List Phrase) (index : Nat) (screen : Screen) :
    Screen :=
  let isChosen := menu.chosen = some index
  let indent := Text.width menu.marker
  let marker := if isChosen then menu.marker else .replicate indent ' '
  let screen := screen.writeLabel (row.dropColumns indent) item
  let screen := screen.writeLabel row [⟨marker, .plain⟩]
  if isChosen then screen.restyle row menu.highlight else screen

/-- Draws a menu into an area. -/
def writeMenu (area : Area) (menu : Menu) (screen : Screen) : Screen :=
  if area.isEmpty then screen
  else
    (menu.visible area.height).zipIdx.foldl
      (fun screen ((item, index), row) => screen.writeItem menu (area.row row) item index) screen

end Screen

end RedactedBundle
