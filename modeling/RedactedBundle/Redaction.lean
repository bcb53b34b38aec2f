import RedactedBundle.Hidden
import RedactedBundle.Source.Declaration
import RedactedBundle.Text.Lines

/-!
# Redaction

A source is shown with some of its names hidden: the inside of a hidden class and the body of
a hidden method give way to a comment, and all other text stays as it is. What is shown is
first laid out as a sequence of pieces; a piece is a stretch of the source or a comment.

## Main definitions

- `Piece`: a stretch of the source, or what stands in place of hidden code
- `Source.pieces`: the layout of a source under hidden names
- `Source.redact?`, `Source.redact`: the text of the layout
-/

namespace RedactedBundle

/-- The comments put in place of hidden code, without the comment marks. -/
structure Placeholders where
  methodComment : String
  classComment : String
  deriving Repr, DecidableEq, Inhabited

/-- The comments used unless settings say otherwise. -/
def Placeholders.standard : Placeholders :=
  ⟨"logic hidden", "whole class collapsed"⟩

/-- A part of a redacted text. -/
inductive Piece where
  /-- A stretch of the source, copied. -/
  | source (span : Span)
  /-- The comment of a collapsed class whose closing brace stands at a position. -/
  | collapsed (brace : Nat)
  /-- The comment of a hidden method body. -/
  | hiddenBody
  deriving Repr, DecidableEq

mutual

/-- The layout of one declaration. A hidden class keeps the text up to its opening brace and
from its closing brace on; a hidden method keeps the text around its body. -/
def Decl.pieces (hidden : Hidden) : Decl → List Piece
  | .bareClass _ _ span => [.source span]
  | .fullClass name _ span inner members =>
    if name ∈ hidden.classes then
      -- Members go with the class, be they hidden themselves or not.
      [.source ⟨span.start, inner.start⟩, .collapsed inner.stop,
        .source ⟨inner.stop, span.stop⟩]
    else
      piecesFrom hidden span.stop span.start members
  | .method m =>
    match m.body with
    | some body =>
      if m.name ∈ hidden.methods then
        [.source ⟨m.span.start, body.span.start⟩, .hiddenBody,
          .source ⟨body.span.stop, m.span.stop⟩]
      else
        [.source m.span]
    | none => [.source m.span]

/-- The layout of the text from a position up to `stop` with declarations in it. -/
def piecesFrom (hidden : Hidden) (stop : Nat) (start : Nat) : List Decl → List Piece
  | [] => [.source ⟨start, stop⟩]
  | decl :: rest =>
    .source ⟨start, decl.span.start⟩ ::
      (decl.pieces hidden ++ piecesFrom hidden stop decl.span.stop rest)

end

/-- The layout of a whole source. -/
def Source.pieces (hidden : Hidden) (source : Source) : List Piece :=
  piecesFrom hidden (Text.byteLength source.text.toList) 0 source.decls

/-- The text of a piece over a source text; fails where a position of the piece is not
between two characters of that text. -/
def Piece.text? (placeholders : Placeholders) (text : List Char) : Piece → Option (List Char)
  | .source span => Text.slice? text span
  | .collapsed brace =>
    (Text.takeBytes? text brace).map fun before =>
      let indent := Text.lineIndent before
      let comment := "/* ".toList ++ placeholders.classComment.toList ++ " */".toList
      '\n' :: (indent ++ "    ".toList ++ comment ++ '\n' :: indent)
  | .hiddenBody =>
    some ("\x7b /* ".toList ++ placeholders.methodComment.toList ++ " */ \x7d".toList)

/-- The texts of some pieces, joined; fails if one of them fails. -/
def joinPieces? (placeholders : Placeholders) (text : List Char) :
    List Piece → Option (List Char)
  | [] => some []
  | piece :: rest =>
    (piece.text? placeholders text).bind fun head =>
      (joinPieces? placeholders text rest).map (head ++ ·)

/-- The source with hidden names replaced by comments; fails if the spans of the
declarations do not fit the text. -/
def Source.redact? (placeholders : Placeholders) (hidden : Hidden) (source : Source) :
    Option String :=
  (joinPieces? placeholders source.text.toList (source.pieces hidden)).map String.ofList

/-- The source with hidden names replaced by comments; the empty text for declarations that
do not fit the text, which reading a source never gives. -/
def Source.redact (placeholders : Placeholders) (hidden : Hidden) (source : Source) : String :=
  (source.redact? placeholders hidden).getD ""

end RedactedBundle
