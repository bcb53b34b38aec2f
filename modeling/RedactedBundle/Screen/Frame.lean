import RedactedBundle.Screen.Text

/-!
# Frames

A frame is drawn with lines along the edges of an area and has its title on the upper line.

## Main definitions

- `Frame`: a title and the style of the lines
- `Screen.writeFrame`: draws a frame
- `Screen.writeFramed`: a paragraph with a frame around it
-/

namespace RedactedBundle

/-- A frame around an area. The style holds for the lines, and for the title laid over them. -/
structure Frame where
  title : String
  style : Style := {}
  deriving Repr, DecidableEq, Inhabited

namespace Frame

/-- The symbol of a frame at a place of the area around which it is drawn; inside there is none.
Where edges fall together the upper and then the left one wins. -/
def symbol? (area : Area) (x y : Nat) : Option Char :=
  if y = area.y then
    some (if x = area.x then '┌' else if x + 1 = area.right then '┐' else '─')
  else if y + 1 = area.bottom then
    some (if x = area.x then '└' else if x + 1 = area.right then '┘' else '─')
  else if x = area.x || x + 1 = area.right then some '│'
  else none

/-- Where the title goes: the upper line without its corners. -/
def titleArea (area : Area) : Area := ⟨area.x + 1, area.y, area.width - 2, 1⟩

end Frame

namespace Screen

/-- Draws a frame along the edges of an area. -/
def writeFrame (area : Area) (frame : Frame) (screen : Screen) : Screen :=
  let screen := area.places.foldl
    (fun screen (x, y) =>
      match Frame.symbol? area x y with
      | some symbol => screen.update x y (·.write [symbol] frame.style)
      | none => screen)
    screen
  if area.isEmpty then screen
  else screen.writeLabel (Frame.titleArea area) (Phrase.joinLines frame.title .plain)

/-- Draws a paragraph with a frame around it. Its style is laid under all of it. -/
def writeFramed (area : Area) (frame : Frame) (style : Style) (lines : List (List Phrase))
    (screen : Screen) : Screen :=
  ((screen.restyle area style).writeFrame area frame).writeLines area.inside lines

end Screen

end RedactedBundle
