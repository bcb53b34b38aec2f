import RedactedBundle.Text.Slice

/-!
# Lines

Lines end at a line feed; a carriage return directly before it belongs to the line end. What
follows the last line feed is a line only if it holds a character.

## Main definitions

- `Text.lines`: the lines of a text without their ends
- `Text.lineIndent`: the blanks a line starts with, if it holds nothing else
-/

namespace RedactedBundle.Text

/-- A line kept newest character first, turned round; at a line feed, one carriage return
before it is left out. -/
def closeLine : List Char → List Char
  | '\r' :: rest => rest.reverse
  | cs => cs.reverse

/-- Splits at line feeds, with the characters of the current line kept newest first. -/
def linesFrom (current : List Char) : List Char → List (List Char)
  | [] => if current.isEmpty then [] else [current.reverse]
  | c :: cs =>
    if c = '\n' then closeLine current :: linesFrom [] cs else linesFrom (c :: current) cs

/-- The lines of a text, in order. -/
def lines (cs : List Char) : List (List Char) := linesFrom [] cs

/-- What follows the last line feed of a text. -/
def lastLine (cs : List Char) : List Char :=
  (cs.reverse.takeWhile (· ≠ '\n')).reverse

/-- A space or a tab. -/
def isBlank (c : Char) : Bool := c = ' ' || c = '\t'

/-- The last line of a text if it holds nothing but spaces and tabs, and nothing otherwise. -/
def lineIndent (cs : List Char) : List Char :=
  if (lastLine cs).all isBlank then lastLine cs else []

end RedactedBundle.Text
