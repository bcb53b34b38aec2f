import RedactedBundle.Code.Node.OfItems
import RedactedBundle.Source.OfNode

/-!
# Reading a source file

The declarations of a C# file, found through its tokens and its syntax tree. Reading never
fails: what cannot be read as a declaration is plain text.

## Main definitions

- `Source.ofText`: a text with the declarations found in it
-/

namespace RedactedBundle

/-- The syntax tree of a text. -/
def Node.ofText (text : String) : Node :=
  let tokens := Token.ofText text.toList
  Node.ofItems tokens.length (Item.ofTokens tokens)

/-- A text with the declarations found in it. -/
def Source.ofText (text : String) : Source := Source.ofNode text (Node.ofText text)

end RedactedBundle
