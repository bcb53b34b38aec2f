import RedactedBundle.Proofs.Redaction.Methods
import RedactedBundle.Proofs.Source.Found
import RedactedBundle.Source.OfText

/-!
# Expression bodies and their terminators

A method with an expression body ends with a semicolon, and comments may stand between the arrow
clause and the semicolon. Only a semicolon directly behind the arrow clause is taken into the body.
With anything in between, the body ends with the arrow clause: a hidden method then keeps what stands
behind it, through the semicolon.

## Main definitions

- `Terminated`: the children of a method, taken apart at the arrow clause and at the semicolon

## Main statements

- `nonempty_terminated_iff`: which methods can be taken apart like this
- `Node.methodBody?_of_terminated`: the body of such a method
- `expressionBody_of_terminated`: the body, and which bytes are kept when the method is hidden
-/

namespace RedactedBundle

/-- The children of a method without a block, taken apart at the first arrow clause and at the first
semicolon behind it. -/
structure Terminated (children : List Node) where
  before : List Node
  arrow : Node
  between : List Node
  semicolon : Node
  behind : List Node
  children_eq : children = before ++ arrow :: (between ++ semicolon :: behind)
  arrow_kind : arrow.kind = .arrowClause
  semicolon_kind : semicolon.kind = .semicolon
  not_block : ∀ child ∈ children, child.kind ≠ .block
  not_arrow : ∀ child ∈ before, child.kind ≠ .arrowClause
  not_semicolon : ∀ child ∈ between, child.kind ≠ .semicolon

variable {children : List Node} {text : List Char} {hidden : Hidden} {position : Nat}

namespace Terminated

/-- From the arrow through the semicolon. -/
def span (parts : Terminated children) : Span :=
  ⟨parts.arrow.span.start, parts.semicolon.span.stop⟩

theorem sublist (parts : Terminated children) :
    [parts.arrow, parts.semicolon].Sublist children := by
  obtain ⟨before, arrow, between, semicolon, behind, rfl, -, -, -, -, -⟩ := parts
  have hsemicolon : [semicolon].Sublist (between ++ semicolon :: behind) :=
    List.singleton_sublist.mpr (by simp)
  exact (hsemicolon.cons_cons arrow).trans (List.sublist_append_right before _)

theorem arrow_mem (parts : Terminated children) : parts.arrow ∈ children :=
  parts.sublist.subset (by simp)

theorem semicolon_mem (parts : Terminated children) : parts.semicolon ∈ children :=
  parts.sublist.subset (by simp)

end Terminated

theorem exists_first_of_kind {kind : NodeKind} {child : Node} (hmem : child ∈ children)
    (hkind : child.kind = kind) :
    ∃ before first behind, children = before ++ first :: behind ∧ first.kind = kind ∧
      ∀ other ∈ before, other.kind ≠ kind := by
  have hfind : (children.find? (·.kind = kind)).isSome :=
    List.find?_isSome.mpr ⟨child, hmem, decide_eq_true hkind⟩
  obtain ⟨first, hfirst⟩ := Option.isSome_iff_exists.mp hfind
  obtain ⟨hfirst, before, behind, hsplit, hbefore⟩ := List.find?_eq_some_iff_append.mp hfirst
  exact ⟨before, first, behind, hsplit, of_decide_eq_true hfirst,
    fun other hother => by simpa using hbefore other hother⟩

/-- Children can be taken apart if there is no block among them and a semicolon somewhere behind an
arrow clause. -/
theorem nonempty_terminated_iff :
    Nonempty (Terminated children) ↔ (∀ child ∈ children, child.kind ≠ .block) ∧
      ∃ arrow semicolon, [arrow, semicolon].Sublist children ∧ arrow.kind = .arrowClause ∧
        semicolon.kind = .semicolon := by
  constructor
  · rintro ⟨parts⟩
    exact ⟨parts.not_block, parts.arrow, parts.semicolon, parts.sublist, parts.arrow_kind,
      parts.semicolon_kind⟩
  · rintro ⟨hblock, arrow, semicolon, hsublist, harrow, hsemicolon⟩
    obtain ⟨front, back, rfl, hfront, hback⟩ := List.cons_sublist_iff.mp hsublist
    -- The first arrow clause comes no later than the given one, so the given semicolon is behind it.
    obtain ⟨before, first, middle, rfl, hfirst, hbefore⟩ := exists_first_of_kind hfront harrow
    have hmem : semicolon ∈ middle ++ back :=
      List.mem_append_right _ (List.singleton_sublist.mp hback)
    obtain ⟨between, last, behind, hsplit, hlast, hbetween⟩ := exists_first_of_kind hmem hsemicolon
    exact ⟨{
      before, arrow := first, between, semicolon := last, behind
      children_eq := by rw [List.append_assoc, List.cons_append, hsplit]
      arrow_kind := hfirst
      semicolon_kind := hlast
      not_block := hblock
      not_arrow := hbefore
      not_semicolon := hbetween }⟩

namespace Node

/-- What comes before the first block or arrow clause does not bear on the body. -/
theorem methodBody?_append {before rest : List Node}
    (h : ∀ child ∈ before, child.kind ≠ .block ∧ child.kind ≠ .arrowClause) :
    methodBody? (before ++ rest) = methodBody? rest := by
  induction before with
  | nil => rfl
  | cons child before ih =>
    obtain ⟨hblock, harrow⟩ := h child List.mem_cons_self
    rw [List.cons_append, methodBody?.eq_def]
    simp only
    exact ih fun other hmem => h other (List.mem_cons_of_mem _ hmem)

/-- The body of a method that ends with a semicolon runs through the semicolon only if nothing is in
between. -/
theorem methodBody?_of_terminated (parts : Terminated children) :
    methodBody? children = some ⟨⟨parts.arrow.span.start,
      if parts.between.isEmpty then parts.semicolon.span.stop else parts.arrow.span.stop⟩,
        .expression⟩ := by
  obtain ⟨before, arrow, between, semicolon, behind, rfl, harrow, hsemicolon, hblock, hbefore,
    hbetween⟩ := parts
  have hplain : ∀ child ∈ before, child.kind ≠ .block ∧ child.kind ≠ .arrowClause :=
    fun child hmem => ⟨hblock child (List.mem_append_left _ hmem), hbefore child hmem⟩
  rw [methodBody?_append hplain, methodBody?.eq_def]
  simp only [harrow]
  cases between with
  | nil => simp [hsemicolon]
  | cons next rest =>
    have hnext : next.kind ≠ .semicolon := hbetween next List.mem_cons_self
    simp [hnext]

theorem decl_of_method {method : Node} (h : method.kind = .methodDecl) :
    method.decl text = .method (method.toMethod text) := by
  rw [decl, h]

/-- What is found at an address has a place among the declarations. -/
theorem exists_place_of_finds {root target : Node} {site : Address} (text : List Char)
    (hfinds : root.finds site) (htarget : root.at? site = some target) :
    ∃ place, declAt? (root.decls text) place = some (target.decl text) := by
  have hdeclared : root.declaredAt? text site = some (target.decl text) := by
    rw [declaredAt?, htarget, Option.map_some]
  have hmem : root.declaredAt? text site ∈ (placesIn (root.decls text)).map
      (declAt? (root.decls text)) := by
    rw [← root.map_found]
    exact List.mem_map_of_mem (mem_found_iff.mpr hfinds)
  obtain ⟨place, -, hplace⟩ := List.mem_map.mp hmem
  exact ⟨place, hplace.trans hdeclared⟩

theorem Fits.terminated_within {method : Node} (h : method.Fits text)
    (parts : Terminated method.children) : parts.span.Within method.span := by
  have hin : ∀ child ∈ method.children, child.span.Within method.span :=
    fun child hmem => h.inOrder.within_range child.span (List.mem_map_of_mem hmem)
  have harrow := hin parts.arrow parts.arrow_mem
  have hsemicolon := hin parts.semicolon parts.semicolon_mem
  exact ⟨harrow.start_le, hsemicolon.stop_le⟩

/-- From the arrow through the semicolon of a hidden method the bytes behind the arrow clause are kept
as if no method were hidden, unless nothing is in between. -/
theorem Fits.mem_kept_iff_of_terminated {text : String} {root method : Node} {site : Address}
    (h : root.Fits text.toList) (hfinds : root.finds site) (hmethod : root.at? site = some method)
    (hkind : method.kind = .methodDecl) (parts : Terminated method.children)
    (hname : (method.toMethod text.toList).name ∈ hidden.methods)
    (hcovers : parts.span.Covers position) :
    position ∈ (Source.ofNode text root).kept hidden ↔
      parts.between ≠ [] ∧ parts.arrow.span.stop ≤ position ∧
        position ∈ (Source.ofNode text root).kept { hidden with methods := NameSet.empty } := by
  have hsource := Source.wellFormed_ofNode h
  obtain ⟨place, hplace⟩ := exists_place_of_finds text.toList hfinds hmethod
  rw [decl_of_method hkind] at hplace
  have hin := (h.of_at? hmethod).terminated_within parts
  have hcovers' : (method.toMethod text.toList).span.Covers position := hcovers.mono hin
  have hbody : (method.toMethod text.toList).body = some ⟨⟨parts.arrow.span.start,
      if parts.between.isEmpty then parts.semicolon.span.stop else parts.arrow.span.stop⟩,
        .expression⟩ := methodBody?_of_terminated parts
  obtain ⟨hstart, hstop⟩ := hcovers
  rw [hsource.mem_kept_iff_of_method hplace hcovers', hsource.mem_kept_iff_of_method hplace hcovers',
    hbody]
  cases hbetween : parts.between with
  | nil =>
    have hbodyCovers : Span.Covers ⟨parts.arrow.span.start, parts.semicolon.span.stop⟩ position :=
      ⟨hstart, hstop⟩
    simp [hname, hbodyCovers]
  | cons next rest =>
    have hbodyCovers : Span.Covers ⟨parts.arrow.span.start, parts.arrow.span.stop⟩ position ↔
        position < parts.arrow.span.stop := and_iff_right hstart
    have hnone : (method.toMethod text.toList).name ∉ NameSet.empty := NameSet.not_mem_empty
    simp [hname, hnone, hbodyCovers, and_comm]

end Node

/-- A method that ends with a semicolon behind its arrow clause has an expression body. The body runs
from the arrow through the semicolon if nothing is in between, and otherwise only to the end of the
arrow clause; what is behind that is then kept when the method is hidden. -/
theorem expressionBody_of_terminated (text : String) (method : Node) :
    (Nonempty (Terminated method.children) ↔ (∀ child ∈ method.children, child.kind ≠ .block) ∧
      ∃ arrow semicolon, [arrow, semicolon].Sublist method.children ∧ arrow.kind = .arrowClause ∧
        semicolon.kind = .semicolon) ∧
    ∀ parts : Terminated method.children,
      (method.toMethod text.toList).body = some ⟨⟨parts.arrow.span.start,
        if parts.between.isEmpty then parts.semicolon.span.stop else parts.arrow.span.stop⟩,
          .expression⟩ ∧
      ∀ root site hidden position, root.Fits text.toList → root.finds site →
        root.at? site = some method → method.kind = .methodDecl →
        (method.toMethod text.toList).name ∈ hidden.methods → parts.span.Covers position →
        (position ∈ (Source.ofNode text root).kept hidden ↔
          parts.between ≠ [] ∧ parts.arrow.span.stop ≤ position ∧
            position ∈ (Source.ofNode text root).kept { hidden with methods := NameSet.empty }) := by
  refine ⟨nonempty_terminated_iff, fun parts => ⟨Node.methodBody?_of_terminated parts, ?_⟩⟩
  intro root site hidden position hfits hfinds hmethod hkind hname hcovers
  exact hfits.mem_kept_iff_of_terminated hfinds hmethod hkind parts hname hcovers

/-- The method `int F() => 1 /* c */;` in a class. -/
def commentedMethod : Node :=
  .mk .methodDecl ⟨10, 31⟩
    [.mk .returnType ⟨10, 13⟩ [], .mk .identifier ⟨14, 15⟩ [], .mk .arrowClause ⟨18, 22⟩ [],
      .mk .comment ⟨23, 30⟩ [], .mk .semicolon ⟨30, 31⟩ []]

def commentedTree : Node :=
  .mk .unit ⟨0, 33⟩
    [.mk (.typeDecl .plain) ⟨0, 33⟩
      [.mk .identifier ⟨6, 7⟩ [],
        .mk .declarationList ⟨8, 33⟩
          [.mk .openingBrace ⟨8, 9⟩ [], commentedMethod, .mk .closingBrace ⟨32, 33⟩ []]]]

/-- A comment stands between the arrow clause and the semicolon. -/
def commentedParts : Terminated commentedMethod.children where
  before := [.mk .returnType ⟨10, 13⟩ [], .mk .identifier ⟨14, 15⟩ []]
  arrow := .mk .arrowClause ⟨18, 22⟩ []
  between := [.mk .comment ⟨23, 30⟩ []]
  semicolon := .mk .semicolon ⟨30, 31⟩ []
  behind := []
  children_eq := rfl
  arrow_kind := rfl
  semicolon_kind := rfl
  not_block := by decide
  not_arrow := by decide
  not_semicolon := by decide

/-- The semicolon behind a comment is kept though the method is hidden. -/
theorem expressionBody_of_terminated_commentedTree :
    let text := "class A \x7b int F() => 1 /* c */; \x7d"
    let hidden := Hidden.ofLists [] ["F"]
    commentedTree.Fits text.toList ∧ commentedTree.finds [0, 1, 1] ∧
      commentedTree.at? [0, 1, 1] = some commentedMethod ∧ commentedMethod.kind = .methodDecl ∧
      (commentedMethod.toMethod text.toList).name ∈ hidden.methods ∧
      commentedParts.span.Covers 30 ∧
      (commentedMethod.toMethod text.toList).body = some ⟨⟨18, 22⟩, .expression⟩ ∧
      30 ∈ (Source.ofNode text commentedTree).kept hidden := by
  intro text hidden
  have hfits : commentedTree.Fits text.toList := by decide
  have hname : (commentedMethod.toMethod text.toList).name ∈ hidden.methods := by decide
  have hcovers : commentedParts.span.Covers 30 := by decide
  obtain ⟨-, hparts⟩ := expressionBody_of_terminated text commentedMethod
  obtain ⟨hbody, hkept⟩ := hparts commentedParts
  refine ⟨hfits, rfl, rfl, rfl, hname, hcovers, hbody, ?_⟩
  refine (hkept commentedTree [0, 1, 1] hidden 30 hfits rfl rfl rfl hname hcovers).mpr ?_
  exact ⟨by decide, by decide, by decide⟩

/-- So it is not so that the body of each method that ends with a semicolon runs through it, and the
comment and the semicolon are still there in the text shown. -/
theorem not_forall_body_through_semicolon :
    (¬ ∀ (text : List Char) (method : Node) (parts : Terminated method.children),
      (method.toMethod text).body = some ⟨parts.span, .expression⟩) ∧
    (Source.ofText "class A \x7b int F() => 1 /* c */; \x7d").redact? .standard (.ofLists [] ["F"]) =
      some "class A \x7b int F() \x7b /* logic hidden */ \x7d /* c */; \x7d" := by
  constructor
  · intro hall
    have hbody : some (MethodBody.mk ⟨18, 22⟩ .expression) = some ⟨⟨18, 31⟩, .expression⟩ :=
      hall [] commentedMethod commentedParts
    exact absurd hbody (by decide)
  · decide +kernel

end RedactedBundle
