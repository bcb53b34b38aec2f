import RedactedBundle.Highlight.Basic
import RedactedBundle.Text.Lines

/-!
# Previews

The highlighted view of a shown text.

## Main definitions

- `Preview`: the view of a text
- `Preview.ofText`: the view of a file's text
-/

namespace RedactedBundle

/-- The view of a text; `redacted` tells that something is hidden in it. -/
structure Preview where
  fileName : String
  highlighted : Highlighted
  redacted : Bool
  deriving Repr, DecidableEq, Inhabited

namespace Preview

/-- The number of lines. -/
def lineCount (preview : Preview) : Nat := preview.highlighted.lines.length

/-- The view of the text of a file. -/
def ofText (segmenter : Segmenter) (theme fileName text : String) (redacted : Bool) : Preview :=
  { fileName
    highlighted := highlight segmenter fileName (Text.lines text.toList) theme
    redacted }

end Preview

end RedactedBundle
