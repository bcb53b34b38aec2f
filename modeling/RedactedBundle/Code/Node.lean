import RedactedBundle.Source.Declaration

/-!
# Syntax trees

The tree of a C# file, down to what bears on its declarations: types, methods, their names,
bodies and braces, and the comments in between. A part of the file that could not be read as
a declaration is an error node or missing from the tree.

## Main definitions

- `NodeKind`: what a node is
- `Node`: a node with its place and its children
-/

namespace RedactedBundle

/-- What a node of a syntax tree is. -/
inductive NodeKind where
  /-- The whole file. -/
  | unit
  | namespaceDecl
  | typeDecl (kind : ClassKind)
  | methodDecl
  /-- The declarations between the braces of a type or a namespace. -/
  | declarationList
  /-- The statements of a method in braces. -/
  | block
  /-- An arrow with the expression after it. -/
  | arrowClause
  /-- The name of a declaration. -/
  | identifier
  /-- The type in front of the name of a method. -/
  | returnType
  | openingBrace
  | closingBrace
  | semicolon
  | comment
  /-- Text that could not be read as the declaration it begins. -/
  | error
  /-- Any other part of a file, be it a named node or a mere mark such as a keyword. -/
  | other (named : Bool)
  deriving Repr, DecidableEq, Inhabited

/-- Braces, semicolons and some other parts are mere marks; all other nodes are named. -/
def NodeKind.isNamed : NodeKind → Bool
  | .openingBrace | .closingBrace | .semicolon => false
  | .other named => named
  | _ => true

/-- A node with its place in the text and its children in order. -/
inductive Node where
  | mk (kind : NodeKind) (span : Span) (children : List Node)
  deriving Repr, Inhabited

namespace Node

def kind : Node → NodeKind
  | mk kind _ _ => kind

def span : Node → Span
  | mk _ span _ => span

def children : Node → List Node
  | mk _ _ children => children

/-- The first child of a kind. -/
def child? (node : Node) (kind : NodeKind) : Option Node :=
  node.children.find? (·.kind = kind)

/-- The text of the first child of a kind; nothing if there is no such child. -/
def childText (text : List Char) (node : Node) (kind : NodeKind) : String :=
  match node.child? kind with
  | some child => ((Text.slice? text child.span).map String.ofList).getD ""
  | none => ""

end Node

end RedactedBundle
