import RedactedBundle.Text.Slice

/-!
# Declarations of a source file

The classes and methods that a source file declares, as a tree over the text of the file.
Whatever lies between the spans of the declarations is plain text.

## Main definitions

- `Decl`: a class or method declaration, a class holding the declarations of its body
- `Source`: a text with the declarations found in it
-/

namespace RedactedBundle

/-- The keyword a type declaration is introduced by; records of either sort count as one. -/
inductive ClassKind where
  | plain
  | struct
  | interface
  | record
  deriving Repr, DecidableEq, Inhabited

/-- The keyword as it is written in source and in listings. -/
def ClassKind.keyword : ClassKind → String
  | .plain => "class"
  | .struct => "struct"
  | .interface => "interface"
  | .record => "record"

/-- How the body of a method is written: in braces, or as one expression after an arrow. -/
inductive BodyForm where
  | block
  | expression
  deriving Repr, DecidableEq, Inhabited

/-- The body of a method. An expression body runs from its arrow. -/
structure MethodBody where
  span : Span
  form : BodyForm
  deriving Repr, DecidableEq, Inhabited

/-- A method declaration. Its span covers attributes, modifiers and the terminator; the body
is absent when only the signature is declared. -/
structure Method where
  name : String
  returnType : String
  span : Span
  body : Option MethodBody
  deriving Repr, DecidableEq, Inhabited

/-- A declaration of a source file. A class without braces has no body; the inner span of a
body lies strictly between its braces. -/
inductive Decl where
  /-- A class, struct, interface or record declared without braces. -/
  | bareClass (name : String) (kind : ClassKind) (span : Span)
  /-- A class, struct, interface or record with the declarations between its braces. -/
  | fullClass (name : String) (kind : ClassKind) (span inner : Span) (members : List Decl)
  | method (method : Method)
  deriving Repr, Inhabited

/-- The whole declaration, with its attributes and modifiers. -/
def Decl.span : Decl → Span
  | .bareClass _ _ span => span
  | .fullClass _ _ span _ _ => span
  | .method m => m.span

/-- The text of a file with the declarations found in it, in the order of the text. -/
structure Source where
  text : String
  decls : List Decl
  deriving Repr, Inhabited

end RedactedBundle
