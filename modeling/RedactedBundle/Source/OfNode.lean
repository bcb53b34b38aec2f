import RedactedBundle.Code.Node

/-!
# Declarations of a syntax tree

The types and methods of a syntax tree, without what lies between them. A method is not
searched for further declarations, and of a type only its body is searched; every other node
is looked through.

## Main definitions

- `Node.decls`: the declarations of a node's named children
- `Source.ofNode`: a text with the declarations of its syntax tree
-/

namespace RedactedBundle

namespace Node

/-- A range made to start behind a child that is an opening brace, and to stop in front of one
that is a closing brace. -/
def narrow (range : Span) (child : Node) : Span :=
  match child.kind with
  | .openingBrace => { range with start := child.span.stop }
  | .closingBrace => { range with stop := child.span.start }
  | _ => range

/-- The range between the braces of a body: from behind the last opening brace among the
children to the last closing brace, or the ends of the body where a brace is missing. -/
def braceInterior (list : Node) : Span :=
  let range := list.children.foldl narrow list.span
  -- The last braces count, and in a broken body they may stand in the wrong order.
  ⟨range.start, max range.stop range.start⟩

/-- The body of a method among its children: the first block, or the first arrow clause with
the semicolon directly after it. -/
def methodBody? : List Node → Option MethodBody
  | [] => none
  | child :: rest =>
    match child.kind with
    | .block => some ⟨child.span, .block⟩
    | .arrowClause =>
      let stop := match rest with
        | next :: _ => if next.kind = .semicolon then next.span.stop else child.span.stop
        | [] => child.span.stop
      some ⟨⟨child.span.start, stop⟩, .expression⟩
    | _ => methodBody? rest

/-- A method declaration. -/
def toMethod (text : List Char) (node : Node) : Method :=
  { name := node.childText text .identifier
    returnType := node.childText text .returnType
    span := node.span
    body := methodBody? node.children }

mutual

/-- The declarations of the named nodes of a list. -/
def declsOf (text : List Char) : List Node → List Decl
  | [] => []
  | node :: rest => node.declsAt text ++ declsOf text rest

/-- The declarations that a node stands for: itself if it is a type or a method, nothing if it
is a mark, and the declarations of its children otherwise. -/
def declsAt (text : List Char) : Node → List Decl
  | mk kind span children =>
    match kind with
    | .typeDecl classKind =>
      let name := (mk kind span children).childText text .identifier
      match bodyOf text children with
      | none => [.bareClass name classKind span]
      | some (inner, members) => [.fullClass name classKind span inner members]
    | .methodDecl => [.method ((mk kind span children).toMethod text)]
    | _ => if kind.isNamed then declsOf text children else []

/-- The brace interior and the declarations of the first body in a list of nodes. -/
def bodyOf (text : List Char) : List Node → Option (Span × List Decl)
  | [] => none
  | mk kind span children :: rest =>
    if kind = .declarationList then
      some ((mk kind span children).braceInterior, declsOf text children)
    else
      bodyOf text rest

end

/-- The declarations found under a node. -/
def decls (text : List Char) (node : Node) : List Decl := declsOf text node.children

end Node

/-- A text with the declarations of its syntax tree. -/
def Source.ofNode (text : String) (root : Node) : Source :=
  ⟨text, root.decls text.toList⟩

end RedactedBundle
