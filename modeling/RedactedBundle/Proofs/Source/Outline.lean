import RedactedBundle.Proofs.Source.Address
import RedactedBundle.Source.Outline

/-!
# What an outline tells

An outline lists the classes of a source in preorder, each with its own methods. A class stands as
many levels deep as there are classes around it. That is enough to put the classes together again:
read from the last row to the first one, a class takes the methods and the deeper classes directly
behind it. So the outline tells the classes, their methods and how they nest, and nothing else.

## Main definitions

- `ClassTree`, `classForest`: the classes of a source with their methods and the classes in them
- `Decl.ownRows`: the rows of a class without those of the classes in it
- `ClassTree.ofRows`: the classes that rows tell

## Main statements

- `classRows_eq_flatMap_places`: the rows are those of the classes in preorder
- `ClassTree.ofRows_forestRows`: the rows of classes tell these classes
- `Source.outline_lossless`: both, for the outline of a source
-/

namespace RedactedBundle

/-- A method as an outline lists it. -/
structure Signature where
  name : String
  returnType : String
  deriving Repr, DecidableEq, Inhabited

/-- A class with the methods and the classes directly in its body. -/
inductive ClassTree where
  | mk (name : String) (kind : ClassKind) (methods : List Signature) (nested : List ClassTree)
  deriving Repr, Inhabited

def Signature.row (owner : String) (signature : Signature) : OutlineRow :=
  .method signature.name signature.returnType owner

namespace Decl

def signature? : Decl → Option Signature
  | bareClass .. => none
  | fullClass .. => none
  | method m => some ⟨m.name, m.returnType⟩

/-- The row of a class at a depth, and the rows of its own methods in their order. -/
def ownRows (depth : Nat) : Decl → List OutlineRow
  | bareClass name kind _ => [.class name kind depth]
  | fullClass name kind _ _ members =>
    .class name kind depth :: (members.filterMap signature?).map (Signature.row name)
  | method _ => []

end Decl

mutual

/-- The class that a declaration is, if it is one. -/
def Decl.classTrees : Decl → List ClassTree
  | .bareClass name kind _ => [.mk name kind [] []]
  | .fullClass name kind _ _ members =>
    [.mk name kind (members.filterMap Decl.signature?) (classForest members)]
  | .method _ => []

/-- The classes among some declarations. -/
def classForest : List Decl → List ClassTree
  | [] => []
  | decl :: rest => decl.classTrees ++ classForest rest

end

namespace ClassTree

mutual

/-- The rows of a class at a depth. -/
def rows (depth : Nat) : ClassTree → List OutlineRow
  | mk name kind methods nested =>
    .class name kind depth :: (methods.map (Signature.row name) ++ forestRows (depth + 1) nested)

/-- The rows of some classes at a depth, one class after the other. -/
def forestRows (depth : Nat) : List ClassTree → List OutlineRow
  | [] => []
  | tree :: rest => tree.rows depth ++ forestRows depth rest

end

/-- What rows are read as: methods of a class in front of them, and classes with their depths. -/
structure Reading where
  methods : List Signature
  classes : List (Nat × ClassTree)
  deriving Inhabited

/-- Reads a row in front of others. A class takes the methods and the deeper classes behind it. -/
def readRow : OutlineRow → Reading → Reading
  | .method name returnType _, behind => { behind with methods := ⟨name, returnType⟩ :: behind.methods }
  | .class name kind depth, behind =>
    let isDeeper := fun entry : Nat × ClassTree => decide (depth < entry.1)
    let nested := (behind.classes.takeWhile isDeeper).map Prod.snd
    ⟨[], (depth, mk name kind behind.methods nested) :: behind.classes.dropWhile isDeeper⟩

/-- The classes that rows tell. -/
def ofRows (rows : List OutlineRow) : List ClassTree :=
  (rows.foldr readRow ⟨[], []⟩).classes.map Prod.snd

/-- To prove a statement of all classes, it may be assumed of the classes in a class. -/
@[elab_as_elim, induction_eliminator]
theorem inductionOnNested {motive : ClassTree → Prop}
    (mk : ∀ name kind methods nested, (∀ tree ∈ nested, motive tree) →
      motive (.mk name kind methods nested)) : ∀ tree, motive tree
  | .mk name kind methods nested =>
    mk name kind methods nested fun tree _ => inductionOnNested mk tree

/-! ## Reading rows -/

theorem foldr_readRow_methods (owner : String) (methods : List Signature)
    (classes : List (Nat × ClassTree)) :
    (methods.map (Signature.row owner)).foldr readRow ⟨[], classes⟩ = ⟨methods, classes⟩ := by
  induction methods with
  | nil => rfl
  | cons signature rest ih => rw [List.map_cons, List.foldr_cons, ih]; rfl

/-- A class takes the classes one level deeper, up to the first one that is not deeper. -/
theorem readRow_class (name : String) (kind : ClassKind) (depth : Nat) (methods : List Signature)
    (nested : List ClassTree) {behind : List (Nat × ClassTree)}
    (hbehind : ∀ entry ∈ behind.head?, entry.1 ≤ depth) :
    readRow (.class name kind depth) ⟨methods, nested.map (depth + 1, ·) ++ behind⟩ =
      ⟨[], (depth, mk name kind methods nested) :: behind⟩ := by
  have hdeeper : ∀ entry ∈ nested.map (depth + 1, ·), decide (depth < entry.1) = true := by
    simp
  have hbehind : behind.takeWhile (fun entry => decide (depth < entry.1)) = [] ∧
      behind.dropWhile (fun entry => decide (depth < entry.1)) = behind := by
    cases behind with
    | nil => exact ⟨rfl, rfl⟩
    | cons entry rest =>
      have hstop : ¬ decide (depth < entry.1) = true := by simpa using hbehind entry rfl
      exact ⟨List.takeWhile_cons_of_neg hstop, List.dropWhile_cons_of_neg hstop⟩
  simp only [readRow, List.takeWhile_append_of_pos hdeeper, List.dropWhile_append_of_pos hdeeper,
    hbehind, List.append_nil, List.map_map, Function.comp_def, List.map_id']

/-- The rows of classes at a depth are read as these classes, if no deeper class comes behind. -/
theorem foldr_readRow_forestRows {depth : Nat} {trees : List ClassTree}
    (hrows : ∀ tree ∈ trees, ∀ behind : List (Nat × ClassTree),
      (∀ entry ∈ behind.head?, entry.1 ≤ depth) →
        (tree.rows depth).foldr readRow ⟨[], behind⟩ = ⟨[], (depth, tree) :: behind⟩)
    {behind : List (Nat × ClassTree)} (hbehind : ∀ entry ∈ behind.head?, entry.1 ≤ depth) :
    (forestRows depth trees).foldr readRow ⟨[], behind⟩ = ⟨[], trees.map (depth, ·) ++ behind⟩ := by
  induction trees with
  | nil => rfl
  | cons tree rest ih =>
    have hnext : ∀ entry ∈ (rest.map (depth, ·) ++ behind).head?, entry.1 ≤ depth := by
      cases rest with
      | nil => exact hbehind
      | cons other rest => simp
    rw [forestRows, List.foldr_append, ih fun other hmem => hrows other (List.mem_cons_of_mem _ hmem)]
    exact hrows tree List.mem_cons_self _ hnext

theorem foldr_readRow_rows (tree : ClassTree) {depth : Nat} {behind : List (Nat × ClassTree)}
    (hbehind : ∀ entry ∈ behind.head?, entry.1 ≤ depth) :
    (tree.rows depth).foldr readRow ⟨[], behind⟩ = ⟨[], (depth, tree) :: behind⟩ := by
  induction tree generalizing depth behind with
  | mk name kind methods nested ih =>
    have hdeeper : ∀ entry ∈ behind.head?, entry.1 ≤ depth + 1 :=
      fun entry hentry => Nat.le_succ_of_le (hbehind entry hentry)
    have hnested := foldr_readRow_forestRows
      (fun tree hmem behind hbehind => ih tree hmem hbehind) hdeeper
    rw [rows, List.foldr_cons, List.foldr_append, hnested, foldr_readRow_methods,
      readRow_class name kind depth methods nested hbehind]

/-- The rows of classes tell these classes. -/
theorem ofRows_forestRows (depth : Nat) (trees : List ClassTree) :
    ofRows (forestRows depth trees) = trees := by
  have hread : (forestRows depth trees).foldr readRow ⟨[], []⟩ =
      ⟨[], trees.map (depth, ·) ++ []⟩ :=
    foldr_readRow_forestRows (fun tree _ _ hbehind => tree.foldr_readRow_rows hbehind) (by simp)
  rw [ofRows, hread, List.append_nil, List.map_map]
  exact List.map_id' trees

end ClassTree

/-! ## Rows of declarations -/

theorem classRows_eq_flatMap (depth : Nat) (decls : List Decl) :
    classRows depth decls = decls.flatMap (Decl.rows depth) := by
  induction decls with
  | nil => rfl
  | cons decl rest ih => rw [classRows, List.flatMap_cons, ih]

theorem forestRows_append (depth : Nat) (trees others : List ClassTree) :
    ClassTree.forestRows depth (trees ++ others) =
      ClassTree.forestRows depth trees ++ ClassTree.forestRows depth others := by
  induction trees with
  | nil => rfl
  | cons tree rest ih =>
    rw [List.cons_append, ClassTree.forestRows, ClassTree.forestRows, ih, List.append_assoc]

theorem methodRows_eq (owner : String) (decls : List Decl) :
    methodRows owner decls = (decls.filterMap Decl.signature?).map (Signature.row owner) := by
  induction decls with
  | nil => rfl
  | cons decl rest ih =>
    cases decl with
    | bareClass => exact ih
    | fullClass => exact ih
    | method m => exact congrArg (OutlineRow.method m.name m.returnType owner :: ·) ih

theorem classRows_eq_forestRows_of {depth : Nat} {decls : List Decl}
    (h : ∀ decl ∈ decls, decl.rows depth = ClassTree.forestRows depth decl.classTrees) :
    classRows depth decls = ClassTree.forestRows depth (classForest decls) := by
  induction decls with
  | nil => rfl
  | cons decl rest ih =>
    rw [classRows, classForest, forestRows_append, h decl List.mem_cons_self,
      ih fun other hmem => h other (List.mem_cons_of_mem _ hmem)]

theorem Decl.rows_eq_forestRows (decl : Decl) (depth : Nat) :
    decl.rows depth = ClassTree.forestRows depth decl.classTrees := by
  induction decl generalizing depth with
  | bareClass => rfl
  | fullClass name kind span inner members ih =>
    have hmembers := classRows_eq_forestRows_of fun member hmember => ih member hmember (depth + 1)
    rw [rows, classTrees, ClassTree.forestRows, ClassTree.rows, hmembers, methodRows_eq]
    exact (List.append_nil _).symm
  | method => rfl

theorem classRows_eq_forestRows (depth : Nat) (decls : List Decl) :
    classRows depth decls = ClassTree.forestRows depth (classForest decls) :=
  classRows_eq_forestRows_of fun decl _ => decl.rows_eq_forestRows depth

theorem Decl.rows_eq_flatMap_places (decl : Decl) (depth : Nat) :
    decl.rows depth = decl.places.flatMap fun rest =>
      (Address.follow? members decl rest).toList.flatMap (ownRows (depth + rest.length)) := by
  induction decl generalizing depth with
  | bareClass => rfl
  | fullClass name kind span inner members ih =>
    have hmembers : ((Address.throughout places members).flatMap fun rest =>
        (Address.follow? Decl.members (.fullClass name kind span inner members)
          rest).toList.flatMap (ownRows (depth + rest.length))) =
          members.flatMap (Decl.rows (depth + 1)) := by
      refine Address.flatMap_throughout_eq fun i member hmember => ?_
      have hchild : member ∈ (Decl.fullClass name kind span inner members).members[i]? := hmember
      simp only [Address.follow?_cons hchild, List.length_cons, ih member (List.mem_of_getElem? hmember),
        Nat.add_assoc, Nat.add_comm 1]
    rw [rows, methodRows_eq, classRows_eq_flatMap, enumerates_places, List.flatMap_cons, Decl.members,
      hmembers]
    simp [Address.follow?, ownRows]
  | method => rfl

/-- The rows of declarations are the own rows of the classes in them, in preorder. -/
theorem classRows_eq_flatMap_places (decls : List Decl) :
    classRows 0 decls = (placesIn decls).flatMap fun place =>
      (declAt? decls place).toList.flatMap (Decl.ownRows (declsAround decls place).length) := by
  have hlength : ((placesIn decls).flatMap fun place =>
      (declAt? decls place).toList.flatMap (Decl.ownRows (declsAround decls place).length)) =
        (placesIn decls).flatMap fun place =>
          (declAt? decls place).toList.flatMap (Decl.ownRows (place.length - 1)) :=
    List.flatMap_congr fun place hplace => by rw [length_declsAround hplace]
  rw [hlength, classRows_eq_flatMap]
  refine (Address.flatMap_throughout_eq fun i decl hdecl => ?_).symm
  simp only [decl.rows_eq_flatMap_places, declAt?_cons hdecl, List.length_cons, Nat.add_sub_cancel,
    Nat.zero_add]

/-- The outline of a source holds the rows of the classes in preorder, where each class stands as
deep as there are classes around it and has the methods directly in its body behind it, and no other
rows. From the rows the classes with their methods and the way they nest can be read back, so two
outlines are the same exactly if these are. -/
theorem Source.outline_lossless (source : Source) :
    (placesIn source.decls).Pairwise (· < ·) ∧
      (∀ place, place ∈ placesIn source.decls ↔ (declAt? source.decls place).isSome) ∧
      (source.outline = (placesIn source.decls).flatMap fun place =>
        (declAt? source.decls place).toList.flatMap
          (Decl.ownRows (declsAround source.decls place).length)) ∧
      ClassTree.ofRows source.outline = classForest source.decls ∧
      ∀ other : Source,
        other.outline = source.outline ↔ classForest other.decls = classForest source.decls := by
  have hrows : ∀ any : Source, any.outline = ClassTree.forestRows 0 (classForest any.decls) :=
    fun any => classRows_eq_forestRows 0 any.decls
  have hread : ∀ any : Source, ClassTree.ofRows any.outline = classForest any.decls := by
    intro any
    rw [hrows, ClassTree.ofRows_forestRows]
  refine ⟨pairwise_placesIn _, fun place => mem_placesIn_iff,
    classRows_eq_flatMap_places source.decls, hread source, fun other => ⟨fun h => ?_, fun h => ?_⟩⟩
  · rw [← hread other, h, hread source]
  · rw [hrows other, h, hrows source]

end RedactedBundle
