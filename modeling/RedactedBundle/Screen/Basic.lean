import RedactedBundle.Screen.Style
import RedactedBundle.Text.Cluster

/-!
# Screens

A screen is a grid of cells. Each cell holds a cluster of characters, its symbol; a symbol of two
columns covers the cell behind it.

## Main definitions

- `Cell`, `Screen`: cells and grids of cells
- `Area`: a rectangle of cells
- `Screen.update`, `Screen.restyle`, `Screen.clear`: changing cells
- `Screen.rowsOfCells`: the cells as they show
-/

namespace RedactedBundle

/-- A cell of a screen. -/
structure Cell where
  symbol : List Char := [' ']
  style : Style := {}
  deriving Repr, DecidableEq, Inhabited

namespace Cell

/-- The empty cell. -/
def blank : Cell := {}

/-- The cell with another symbol, and a style laid over its own. -/
def write (cell : Cell) (symbol : List Char) (style : Style) : Cell :=
  ⟨symbol, style.laidOver cell.style⟩

/-- The cell with characters added to its symbol, and a style laid over its own. -/
def append (cell : Cell) (symbol : List Char) (style : Style) : Cell :=
  ⟨cell.symbol ++ symbol, style.laidOver cell.style⟩

/-- The cell with a style laid over its own. -/
def restyle (cell : Cell) (style : Style) : Cell := { cell with style := style.laidOver cell.style }

/-- The symbol takes the cell behind it as well. -/
def isWide (cell : Cell) : Bool := 2 ≤ Text.width cell.symbol

end Cell

/-- A rectangle of cells. -/
structure Area where
  x : Nat
  y : Nat
  width : Nat
  height : Nat
  deriving Repr, DecidableEq, Inhabited

namespace Area

/-- The column behind the last one. -/
def right (area : Area) : Nat := area.x + area.width

/-- The row behind the last one. -/
def bottom (area : Area) : Nat := area.y + area.height

/-- The area holds no cell. -/
def isEmpty (area : Area) : Bool := area.width = 0 || area.height = 0

/-- The area without its outermost cells. -/
def inside (area : Area) : Area :=
  ⟨area.x + 1, area.y + 1, area.width - 2, area.height - 2⟩

/-- A row of the area, counted from its top. -/
def row (area : Area) (n : Nat) : Area := ⟨area.x, area.y + n, area.width, 1⟩

/-- The area without some of its first rows. -/
def dropRows (area : Area) (n : Nat) : Area :=
  ⟨area.x, area.y + n, area.width, area.height - n⟩

/-- The area without some of its first columns. -/
def dropColumns (area : Area) (n : Nat) : Area :=
  ⟨area.x + n, area.y, area.width - n, area.height⟩

/-- The places of the cells, row by row. -/
def places (area : Area) : List (Nat × Nat) :=
  (List.range area.height).flatMap fun row =>
    (List.range area.width).map fun column => (area.x + column, area.y + row)

end Area

/-- A grid of cells, row by row. -/
structure Screen where
  width : Nat
  height : Nat
  cells : Array Cell
  deriving Repr, DecidableEq, Inhabited

namespace Screen

/-- The empty screen. -/
def blank (width height : Nat) : Screen := ⟨width, height, .replicate (width * height) .blank⟩

/-- All of the screen. -/
def area (screen : Screen) : Area := ⟨0, 0, screen.width, screen.height⟩

/-- Changes the cell at a place; there is nothing to change outside the screen. -/
def update (screen : Screen) (x y : Nat) (change : Cell → Cell) : Screen :=
  if x < screen.width then
    { screen with cells := screen.cells.modify (y * screen.width + x) change }
  else screen

/-- Changes all cells of an area. -/
def updateArea (screen : Screen) (area : Area) (change : Cell → Cell) : Screen :=
  area.places.foldl (fun screen place => screen.update place.1 place.2 change) screen

/-- Lays a style over an area. -/
def restyle (screen : Screen) (area : Area) (style : Style) : Screen :=
  screen.updateArea area fun cell => cell.restyle style

/-- Empties an area. -/
def clear (screen : Screen) (area : Area) : Screen := screen.updateArea area fun _ => .blank

/-- Cells in a row as they show: one that is covered by the symbol before it is empty. -/
def uncovered (covered : Bool) : List Cell → List Cell
  | [] => []
  | cell :: rest => (if covered then .blank else cell) :: uncovered cell.isWide rest

/-- Cuts cells into rows of a width. -/
def cutRows (width : Nat) : Nat → List Cell → List (List Cell)
  | 0, _ => []
  | rows + 1, cells => cells.take width :: cutRows width rows (cells.drop width)

/-- The rows of cells as they show. -/
def rowsOfCells (screen : Screen) : List (List Cell) :=
  cutRows screen.width screen.height (uncovered false screen.cells.toList)

end Screen

end RedactedBundle
