import RedactedBundle.Source.Declaration

/-!
# Outline of a source file

The outline lists the classes of a file in the order of the text, each followed by the
methods declared directly in its body, and then by the classes nested in it.

## Main definitions

- `OutlineRow`: one row of the outline
- `Source.outline`: the rows of a source file
-/

namespace RedactedBundle

/-- One row of the outline: a class with the number of classes around it, or a method with
the name of the class that declares it. -/
inductive OutlineRow where
  | class (name : String) (kind : ClassKind) (depth : Nat)
  | method (name returnType owner : String)
  deriving Repr, DecidableEq, Inhabited

namespace OutlineRow

/-- The declared name a row stands for. -/
def name : OutlineRow → String
  | .class name _ _ => name
  | .method name _ _ => name

/-- The text shown for a row. -/
def label : OutlineRow → String
  | .class name kind _ => kind.keyword ++ " " ++ name
  | .method name returnType _ => returnType ++ " " ++ name ++ "()"

end OutlineRow

/-- The rows of the methods standing directly in a list of members. -/
def methodRows (owner : String) : List Decl → List OutlineRow
  | [] => []
  | .method m :: rest => .method m.name m.returnType owner :: methodRows owner rest
  | .bareClass .. :: rest => methodRows owner rest
  | .fullClass .. :: rest => methodRows owner rest

mutual

/-- The rows of one declaration at a depth; a method outside a class has none. -/
def Decl.rows (depth : Nat) : Decl → List OutlineRow
  | .bareClass name kind _ => [.class name kind depth]
  | .fullClass name kind _ _ members =>
    .class name kind depth :: (methodRows name members ++ classRows (depth + 1) members)
  | .method _ => []

/-- The rows of the declarations of one level, one after the other. -/
def classRows (depth : Nat) : List Decl → List OutlineRow
  | [] => []
  | decl :: rest => decl.rows depth ++ classRows depth rest

end

/-- Every class in the order of the text, each followed by its own methods. -/
def Source.outline (source : Source) : List OutlineRow :=
  classRows 0 source.decls

end RedactedBundle
