import RedactedBundle.Highlight.Language
import RedactedBundle.Highlight.Theme

/-!
# Highlighting

Lines of text cut into styled spans. How a line is cut is left to a segmenter, which may look at
the lines before it and may fail; the text of the lines does not depend on it.

## Main definitions

- `StyledSpan`, `StyledLine`: styled text
- `Segmenter`: what cuts lines into spans
- `Highlighted`, `highlight`: highlighted lines
-/

namespace RedactedBundle

/-- A colour by its parts of red, green and blue. -/
structure Rgb where
  red : UInt8
  green : UInt8
  blue : UInt8
  deriving Repr, DecidableEq, Inhabited

/-- How a span of text is shown. -/
structure TextStyle where
  foreground : Option Rgb := none
  background : Option Rgb := none
  bold : Bool := false
  italic : Bool := false
  underline : Bool := false
  deriving Repr, DecidableEq, Inhabited

/-- A span of text in one style. -/
structure StyledSpan where
  text : List Char
  style : TextStyle := {}
  deriving Repr, DecidableEq, Inhabited

/-- A line of styled spans. -/
abbrev StyledLine := List StyledSpan

/-- The text of a styled line. -/
def StyledLine.text (line : StyledLine) : List Char := line.flatMap StyledSpan.text

/-- What cuts a line, which ends in a line feed, into spans. It knows the language, the theme and
the lines before, the last one first, and may fail. -/
abbrev Segmenter :=
  (language theme : String) → (before : List (List Char)) → (line : List Char) → Option StyledLine

namespace Segmenter

/-- The segmenter that leaves every line whole. -/
def whole : Segmenter := fun _ _ _ line => some [⟨line, {}⟩]

/-- The segmenter loses nothing: where it does not fail, the spans of a line that a line feed ends
make it up. -/
def Faithful (segmenter : Segmenter) : Prop :=
  ∀ language theme before line spans, '\n' ∉ line →
    segmenter language theme before (line ++ ['\n']) = some spans →
      StyledLine.text spans = line ++ ['\n']

end Segmenter

/-- The span without the line feeds at its end. -/
def StyledSpan.trimEnd (span : StyledSpan) : StyledSpan :=
  { span with text := (span.text.reverse.dropWhile (· = '\n')).reverse }

/-- Highlighted lines: the language, unless they are left plain, the theme, and the lines. -/
structure Highlighted where
  language : Option String
  theme : String
  lines : List StyledLine
  deriving Repr, DecidableEq, Inhabited

namespace Highlighted

/-- Lines left plain: each one span without a style. -/
def plain (theme : String) (lines : List (List Char)) : Highlighted :=
  ⟨none, theme, lines.map fun line => [⟨line, {}⟩]⟩

end Highlighted

/-- Cuts lines one after the other, each with a line feed at its end that is not kept; fails if
one of them fails. -/
def segmentLines? (segment : (before : List (List Char)) → List Char → Option StyledLine)
    (before : List (List Char)) : List (List Char) → Option (List StyledLine)
  | [] => some []
  | line :: rest =>
    (segment before (line ++ ['\n'])).bind fun spans =>
      (segmentLines? segment (line :: before) rest).map
        (((spans.map StyledSpan.trimEnd).filter fun span => !span.text.isEmpty) :: ·)

/-- Highlights the lines of a file by the language that its name tells; they are left plain if
it tells none, or if the segmenter fails. -/
def highlight (segmenter : Segmenter) (fileName : String) (lines : List (List Char))
    (theme : String) : Highlighted :=
  let theme := resolveTheme theme
  match languageOfFile? fileName with
  | none => .plain theme lines
  | some language =>
    match segmentLines? (segmenter language theme) [] lines with
    | some styled => ⟨some language, theme, styled⟩
    | none => .plain theme lines

end RedactedBundle
