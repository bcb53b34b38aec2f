import RedactedBundle.Screen.Basic
import RedactedBundle.Text.Lines

/-!
# Text on a screen

A line of text is a list of phrases, each in one style. Labels, such as the title of a frame or an
item of a list, and lines of paragraphs are both cut where the area ends; they differ in what
becomes of symbols without a width and of the cells that wide symbols cover.

## Main definitions

- `Phrase`: text in one style
- `Screen.writeLabel`: writes a label
- `Screen.writeLine`, `Screen.writeLines`: writes lines of a paragraph
-/

namespace RedactedBundle

/-- Text in one style. -/
structure Phrase where
  text : List Char
  style : Style := {}
  deriving Repr, DecidableEq, Inhabited

namespace Phrase

/-- Text in one style. -/
def ofString (text : String) (style : Style) : Phrase := ⟨text.toList, style⟩

/-- The symbols of a phrase. A line feed is none. -/
def symbols (phrase : Phrase) : List (List Char) :=
  (Text.clusters phrase.text).filter (· ≠ ['\n'])

/-- The columns of a phrase. -/
def width (phrase : Phrase) : Nat := Text.width phrase.text

/-- The lines of a text, one behind the other, in one style. -/
def joinLines (text : String) (style : Style) : List Phrase :=
  (Text.lines text.toList).map fun line => ⟨line, style⟩

end Phrase

namespace Screen

/-- Writes symbols of a label from a column on, up to the first that does not fit. The area begins
at the column `start` and ends before `stop`. A symbol without a width is added to the cell before
it, and so is a symbol behind such ones at the start of the area. -/
def writeSymbols (start stop y : Nat) (style : Style) :
    (isFirst : Bool) → (x : Nat) → List (List Char) → Screen → Screen
  | _, _, [], screen => screen
  | isFirst, x, symbol :: rest, screen =>
    let columns := Text.clusterWidth symbol
    if stop < x + columns then screen
    else
      let screen :=
        if isFirst then screen.update x y (·.write symbol style)
        else if x = start then screen.update x y (·.append symbol style)
        else if columns = 0 then screen.update (x - 1) y (·.append symbol style)
        else screen.update x y (·.write symbol style)
      let screen := screen.clear ⟨x + 1, y, columns - 1, 1⟩
      writeSymbols start stop y style false (x + columns) rest screen

/-- Writes a label into the first row of an area. -/
def writeLabel (area : Area) : List Phrase → Screen → Screen
  | [], screen => screen
  | phrase :: rest, screen =>
    if area.isEmpty then screen
    else
      let screen :=
        writeSymbols area.x area.right area.y phrase.style true area.x phrase.symbols screen
      writeLabel (area.dropColumns phrase.width) rest screen

/-- The symbols of a line, each with its style, that fit into a width: up to the first that does
not, not counting those that are wider than the whole width. -/
def fitting (width : Nat) : (used : Nat) → List (List Char × Style) → List (List Char × Style)
  | _, [] => []
  | used, (symbol, style) :: rest =>
    let columns := Text.clusterWidth symbol
    if width < columns then fitting width used rest
    else if width < used + columns then []
    else (symbol, style) :: fitting width (used + columns) rest

/-- Writes symbols from a column on. One without a width is left out. -/
def writeStyled (y : Nat) : (x : Nat) → List (List Char × Style) → Screen → Screen
  | _, [], screen => screen
  | x, (symbol, style) :: rest, screen =>
    let columns := Text.clusterWidth symbol
    let screen := if columns = 0 then screen else screen.update x y (·.write symbol style)
    writeStyled y (x + columns) rest screen

/-- Writes a line of a paragraph into the first row of an area. -/
def writeLine (area : Area) (line : List Phrase) (screen : Screen) : Screen :=
  let symbols := line.flatMap fun phrase => phrase.symbols.map (·, phrase.style)
  writeStyled area.y area.x (fitting area.width 0 symbols) screen

/-- Writes the lines of a paragraph into an area, as many as it has rows. -/
def writeLines (area : Area) (lines : List (List Phrase)) (screen : Screen) : Screen :=
  (lines.take area.height).zipIdx.foldl
    (fun screen (line, n) => screen.writeLine (area.row n) line) screen

end Screen

end RedactedBundle
