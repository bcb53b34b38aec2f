import RedactedBundle.Highlight.Basic

/-!
# Styles on a screen

The colours and emphases of a cell. A style may leave a colour open; laid over another style it
then keeps that one's colour, and emphases add up.

## Main definitions

- `Colour`, `Style`: how a cell looks
- `Style.laidOver`: a style laid over another
-/

namespace RedactedBundle

/-- A colour of the terminal's palette, or one given by its parts. -/
inductive Colour where
  | black
  | red
  | green
  | cyan
  | gray
  | darkGray
  | white
  | rgb (parts : Rgb)
  deriving Repr, DecidableEq, Inhabited

/-- How a cell looks. -/
structure Style where
  foreground : Option Colour := none
  background : Option Colour := none
  bold : Bool := false
  italic : Bool := false
  underline : Bool := false
  deriving Repr, DecidableEq, Inhabited

namespace Style

/-- The style that leaves everything open. -/
def plain : Style := {}

/-- Text in a colour. -/
def ink (colour : Colour) : Style := { foreground := some colour }

/-- A style laid over another. -/
def laidOver (above below : Style) : Style :=
  { foreground := above.foreground.or below.foreground
    background := above.background.or below.background
    bold := above.bold || below.bold
    italic := above.italic || below.italic
    underline := above.underline || below.underline }

@[simp] theorem laidOver_plain (style : Style) : style.laidOver plain = style := by
  cases style; simp [laidOver, plain]

@[simp] theorem plain_laidOver (style : Style) : plain.laidOver style = style := by
  cases style; simp [laidOver, plain]

theorem laidOver_assoc (a b c : Style) : (a.laidOver b).laidOver c = a.laidOver (b.laidOver c) := by
  simp [laidOver, Option.or_assoc, Bool.or_assoc]

end Style

/-- A highlighted span of text keeps its colour and emphases on a screen, but not its
background. -/
def TextStyle.onScreen (style : TextStyle) : Style :=
  { foreground := style.foreground.map .rgb
    bold := style.bold
    italic := style.italic
    underline := style.underline }

end RedactedBundle
