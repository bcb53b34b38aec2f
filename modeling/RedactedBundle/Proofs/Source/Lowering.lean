import RedactedBundle.Proofs.Redaction.EditScript
import RedactedBundle.Source.OfNode

/-!
# Sources of syntax trees

The declarations of a syntax tree are well-formed as long as the ranges of its nodes nest. The tree
need not be the tree of a correct file: it may have error nodes, braces of no width or no braces at
all, and nodes of any kind between the declarations.

## Main definitions

- `Node.Fits`: the ranges of a tree nest, and braces stand around what they enclose
- `Node.Yields`: the declarations of a node are well-formed and lie in it in order

## Main statements

- `Node.within_braceInterior`: what is no brace lies between the braces
- `Node.Fits.yields`: a tree whose ranges nest has well-formed declarations
- `Source.wellFormed_ofNode`: so it makes a well-formed source
-/

namespace RedactedBundle

open RedactedBundle.Span (FitsIn Within InOrder Before)

namespace Node

/-- To prove a statement of all nodes, it may be assumed of the children of a node. -/
@[elab_as_elim, induction_eliminator]
theorem inductionOnChildren {motive : Node → Prop}
    (mk : ∀ kind span children, (∀ child ∈ children, motive child) →
      motive (.mk kind span children)) : ∀ node, motive node
  | .mk kind span children => mk kind span children fun child _ => inductionOnChildren mk child

/-- An opening brace comes before all other children, and a closing brace behind them. -/
def BracesOutside (children : List Node) : Prop :=
  (∀ child ∈ children.tail, child.kind ≠ .openingBrace) ∧
    ∀ child ∈ children.dropLast, child.kind ≠ .closingBrace

instance (children : List Node) : Decidable (BracesOutside children) :=
  inferInstanceAs (Decidable (_ ∧ _))

mutual

/-- The range of each node lies between characters of the text and holds the ranges of its children,
in order. The braces of a list of declarations stand around its other children. -/
def Fits (text : List Char) : Node → Prop
  | mk kind span children =>
    span.FitsIn text ∧ InOrder span (children.map Node.span) ∧
      (kind = .declarationList → BracesOutside children) ∧ AllFit text children

/-- The ranges of each tree of a list nest. -/
def AllFit (text : List Char) : List Node → Prop
  | [] => True
  | node :: rest => node.Fits text ∧ AllFit text rest

end

mutual

instance decidableFits (text : List Char) : (node : Node) → Decidable (node.Fits text)
  | mk kind span children =>
    have := decidableAllFit text children
    inferInstanceAs (Decidable (span.FitsIn text ∧ InOrder span (children.map Node.span) ∧
      (kind = .declarationList → BracesOutside children) ∧ AllFit text children))

instance decidableAllFit (text : List Char) : (nodes : List Node) → Decidable (AllFit text nodes)
  | [] => inferInstanceAs (Decidable True)
  | node :: rest =>
    have := decidableFits text node
    have := decidableAllFit text rest
    inferInstanceAs (Decidable (node.Fits text ∧ AllFit text rest))

end

variable {text : List Char}

theorem allFit_iff {nodes : List Node} : AllFit text nodes ↔ ∀ node ∈ nodes, node.Fits text := by
  induction nodes with
  | nil => simp [AllFit]
  | cons node rest ih => simp [AllFit, ih]

theorem Fits.span_fitsIn {node : Node} (h : node.Fits text) : node.span.FitsIn text := by
  cases node
  exact h.1

theorem Fits.inOrder {node : Node} (h : node.Fits text) :
    InOrder node.span (node.children.map Node.span) := by
  cases node
  exact h.2.1

theorem Fits.bracesOutside {node : Node} (h : node.Fits text)
    (hkind : node.kind = .declarationList) : BracesOutside node.children := by
  cases node
  exact h.2.2.1 hkind

theorem Fits.children {node : Node} (h : node.Fits text) :
    ∀ child ∈ node.children, child.Fits text := by
  cases node
  exact allFit_iff.mp h.2.2.2

/-! ## The range between braces -/

theorem narrow_start {child : Node} (h : child.kind ≠ .openingBrace) (range : Span) :
    (narrow range child).start = range.start := by
  rw [narrow]
  split <;> simp_all

theorem narrow_stop {child : Node} (h : child.kind ≠ .closingBrace) (range : Span) :
    (narrow range child).stop = range.stop := by
  rw [narrow]
  split <;> simp_all

theorem foldl_narrow_start {children : List Node}
    (h : ∀ child ∈ children, child.kind ≠ .openingBrace) (range : Span) :
    (children.foldl narrow range).start = range.start := by
  induction children generalizing range with
  | nil => rfl
  | cons child rest ih =>
    rw [List.foldl_cons, ih fun other hmem => h other (List.mem_cons_of_mem _ hmem)]
    exact narrow_start (h child List.mem_cons_self) range

theorem foldl_narrow_stop {children : List Node}
    (h : ∀ child ∈ children, child.kind ≠ .closingBrace) (range : Span) :
    (children.foldl narrow range).stop = range.stop := by
  induction children generalizing range with
  | nil => rfl
  | cons child rest ih =>
    rw [List.foldl_cons, ih fun other hmem => h other (List.mem_cons_of_mem _ hmem)]
    exact narrow_stop (h child List.mem_cons_self) range

/-- Both positions of a range, in whatever order, are boundaries of the text within limits. -/
def EndsWithin (text : List Char) (limits range : Span) : Prop :=
  (limits.start ≤ range.start ∧ range.start ≤ limits.stop ∧ Text.IsBoundary text range.start) ∧
    limits.start ≤ range.stop ∧ range.stop ≤ limits.stop ∧ Text.IsBoundary text range.stop

theorem EndsWithin.narrow {limits range : Span} (h : EndsWithin text limits range) {child : Node}
    (hfits : child.span.FitsIn text) (hin : child.span.Within limits) :
    EndsWithin text limits (narrow range child) := by
  have hstart := hin.start_le
  have hstop := hin.stop_le
  have hle := hfits.start_le_stop
  rw [Node.narrow]
  split
  · exact ⟨⟨by simp only; omega, by simp only; omega, hfits.stop_boundary⟩, h.2⟩
  · exact ⟨h.1, by simp only; omega, by simp only; omega, hfits.start_boundary⟩
  · exact h

theorem EndsWithin.foldl_narrow {limits range : Span} (h : EndsWithin text limits range)
    {children : List Node} (hchildren : ∀ child ∈ children,
      child.span.FitsIn text ∧ child.span.Within limits) :
    EndsWithin text limits (children.foldl Node.narrow range) := by
  induction children generalizing range with
  | nil => exact h
  | cons child rest ih =>
    obtain ⟨hfits, hin⟩ := hchildren child List.mem_cons_self
    exact ih (h.narrow hfits hin) fun other hmem => hchildren other (List.mem_cons_of_mem _ hmem)

/-- The range between the braces lies in the list, whichever braces there are. -/
theorem Fits.braceInterior {list : Node} (h : list.Fits text) :
    list.braceInterior.FitsIn text ∧ list.braceInterior.Within list.span := by
  have hspan := h.span_fitsIn
  have hle := hspan.start_le_stop
  have hends : EndsWithin text list.span list.span :=
    ⟨⟨Nat.le_refl _, hle, hspan.start_boundary⟩, hle, Nat.le_refl _, hspan.stop_boundary⟩
  have hchildren : ∀ child ∈ list.children, child.span.FitsIn text ∧ child.span.Within list.span :=
    fun child hmem => ⟨(h.children child hmem).span_fitsIn,
      h.inOrder.within_range child.span (List.mem_map_of_mem hmem)⟩
  obtain ⟨⟨hstart, hstart', hboundary⟩, hstop, hstop', hboundary'⟩ := hends.foldl_narrow hchildren
  rw [Node.braceInterior]
  -- Braces in the wrong order leave an empty range at the later position.
  refine ⟨⟨Nat.le_max_right _ _, hboundary, ?_⟩, ⟨hstart, Nat.max_le.mpr ⟨hstop', hstart'⟩⟩⟩
  rcases Nat.le_total (list.children.foldl narrow list.span).start
      (list.children.foldl narrow list.span).stop with hmax | hmax
  · simpa only [Nat.max_eq_left hmax] using hboundary'
  · simpa only [Nat.max_eq_right hmax] using hboundary

/-- The range starts before each child that is no opening brace, as only the first child can be
one. -/
theorem foldl_narrow_start_le {children : List Node} {range : Span}
    (hbefore : children.Pairwise fun first second => first.span.Before second.span)
    (houtside : ∀ child ∈ children.tail, child.kind ≠ .openingBrace) {child : Node}
    (hmem : child ∈ children) (hkind : child.kind ≠ .openingBrace)
    (hstart : range.start ≤ child.span.start) :
    (children.foldl narrow range).start ≤ child.span.start := by
  cases children with
  | nil => simp at hmem
  | cons first rest =>
    have houtside : ∀ other ∈ rest, other.kind ≠ .openingBrace := houtside
    rw [List.foldl_cons, foldl_narrow_start houtside]
    rcases List.mem_cons.mp hmem with rfl | hrest
    · rwa [narrow_start hkind]
    · have hfirst : first.span.stop ≤ child.span.start :=
        (List.pairwise_cons.mp hbefore).1 child hrest
      rw [narrow]
      split
      · exact hfirst
      · exact hstart
      · exact hstart

/-- The range stops behind each child that is no closing brace, as only the last child can be
one. -/
theorem le_foldl_narrow_stop {children : List Node} {range : Span}
    (hbefore : children.Pairwise fun first second => first.span.Before second.span)
    (houtside : ∀ child ∈ children.dropLast, child.kind ≠ .closingBrace) {child : Node}
    (hmem : child ∈ children) (hkind : child.kind ≠ .closingBrace)
    (hstop : child.span.stop ≤ range.stop) :
    child.span.stop ≤ (children.foldl narrow range).stop := by
  have hne : children ≠ [] := List.ne_nil_of_mem hmem
  have hsplit := List.dropLast_concat_getLast hne
  generalize children.getLast hne = last at hsplit
  rw [← hsplit] at hmem hbefore ⊢
  rw [List.foldl_append, List.foldl_cons, List.foldl_nil]
  have hinit := foldl_narrow_stop houtside range
  rcases List.mem_append.mp hmem with hmem | hmem
  · have hlast : child.span.stop ≤ last.span.start :=
      (List.pairwise_append.mp hbefore).2.2 child hmem last List.mem_cons_self
    rw [narrow]
    split
    · exact hinit ▸ hstop
    · exact hlast
    · exact hinit ▸ hstop
  · rw [List.mem_singleton] at hmem
    rw [narrow_stop (hmem ▸ hkind), hinit]
    exact hstop

/-- A child that is no brace lies between the braces. -/
theorem within_braceInterior {list : Node} (h : list.Fits text)
    (hkind : list.kind = .declarationList) {child : Node} (hmem : child ∈ list.children)
    (hopening : child.kind ≠ .openingBrace) (hclosing : child.kind ≠ .closingBrace) :
    child.span.Within list.braceInterior := by
  have hin := h.inOrder.within_range child.span (List.mem_map_of_mem hmem)
  have hbefore := List.pairwise_map.mp h.inOrder.pairwise_before
  obtain ⟨houtside, houtside'⟩ := h.bracesOutside hkind
  have hstop := le_foldl_narrow_stop hbefore houtside' hmem hclosing hin.stop_le
  exact ⟨foldl_narrow_start_le hbefore houtside hmem hopening hin.start_le,
    Nat.le_trans hstop (Nat.le_max_left _ _)⟩

/-! ## Declarations -/

/-- The declarations of a node are well-formed and lie in it in order. -/
structure Yields (text : List Char) (node : Node) : Prop where
  wellFormed : ∀ decl ∈ node.declsAt text, decl.WellFormed text
  inOrder : InOrder node.span ((node.declsAt text).map Decl.span)

theorem declsOf_eq_flatMap (nodes : List Node) :
    declsOf text nodes = nodes.flatMap (declsAt text) := by
  induction nodes with
  | nil => rfl
  | cons node rest ih => rw [declsOf, List.flatMap_cons, ih]

/-- The declarations of nodes in order are in order, and in any range that holds the nodes with
declarations. -/
theorem inOrder_declsOf {nodes : List Node} {range : Span}
    (hbefore : nodes.Pairwise fun first second => first.span.Before second.span)
    (hyields : ∀ node ∈ nodes, node.Yields text)
    (hin : ∀ node ∈ nodes, node.declsAt text ≠ [] → node.span.Within range) :
    InOrder range ((declsOf text nodes).map Decl.span) := by
  have hdecl : ∀ node ∈ nodes, ∀ decl ∈ node.declsAt text, decl.span.Within node.span :=
    fun node hnode decl hmem =>
      (hyields node hnode).inOrder.within_range decl.span (List.mem_map_of_mem hmem)
  rw [declsOf_eq_flatMap]
  constructor
  · rw [List.pairwise_map, List.pairwise_flatMap]
    refine ⟨fun node hnode => List.pairwise_map.mp (hyields node hnode).inOrder.pairwise_before, ?_⟩
    refine hbefore.imp_of_mem fun {first second} hfirst hsecond hle decl hmem decl' hmem' => ?_
    have hstop := (hdecl first hfirst decl hmem).stop_le
    have hstart := (hdecl second hsecond decl' hmem').start_le
    exact Nat.le_trans hstop (Nat.le_trans hle hstart)
  · intro span hspan
    obtain ⟨decl, hmem, rfl⟩ := List.mem_map.mp hspan
    obtain ⟨node, hnode, hmem⟩ := List.mem_flatMap.mp hmem
    exact (hdecl node hnode decl hmem).trans (hin node hnode (List.ne_nil_of_mem hmem))

theorem wellFormed_of_mem_declsOf {nodes : List Node}
    (hyields : ∀ node ∈ nodes, node.Yields text) :
    ∀ decl ∈ declsOf text nodes, decl.WellFormed text := by
  intro decl hmem
  rw [declsOf_eq_flatMap] at hmem
  obtain ⟨node, hnode, hmem⟩ := List.mem_flatMap.mp hmem
  exact (hyields node hnode).wellFormed decl hmem

theorem exists_list_of_bodyOf {children : List Node} {inner : Span} {members : List Decl}
    (h : bodyOf text children = some (inner, members)) :
    ∃ list ∈ children, list.kind = .declarationList ∧ inner = list.braceInterior ∧
      members = declsOf text list.children := by
  induction children with
  | nil => simp [bodyOf] at h
  | cons child rest ih =>
    obtain ⟨kind, span, children⟩ := child
    rw [bodyOf] at h
    split at h
    · next hkind =>
      obtain ⟨rfl, rfl⟩ := Prod.mk.inj (Option.some.inj h)
      exact ⟨_, List.mem_cons_self, hkind, rfl, rfl⟩
    · obtain ⟨list, hmem, hlist⟩ := ih h
      exact ⟨list, List.mem_cons_of_mem _ hmem, hlist⟩

theorem declsAt_brace {node : Node} (h : node.kind = .openingBrace ∨ node.kind = .closingBrace) :
    node.declsAt text = [] := by
  obtain ⟨kind, span, children⟩ := node
  have h : kind = .openingBrace ∨ kind = .closingBrace := h
  rcases h with rfl | rfl <;> simp [declsAt, NodeKind.isNamed]

/-- The body of a class lies in its list of declarations, and its members in the body. -/
theorem Fits.members {list : Node} (h : list.Fits text) (hkind : list.kind = .declarationList)
    (hyields : ∀ child ∈ list.children, child.Yields text) :
    InOrder list.braceInterior ((declsOf text list.children).map Decl.span) ∧
      AllWellFormed text (declsOf text list.children) := by
  have hbefore := List.pairwise_map.mp h.inOrder.pairwise_before
  -- A brace has no declarations, so a child that has some lies between the braces.
  refine ⟨inOrder_declsOf hbefore hyields fun child hmem hdecls => ?_,
    allWellFormed_iff.mpr (wellFormed_of_mem_declsOf hyields)⟩
  exact within_braceInterior h hkind hmem (fun hbrace => hdecls (declsAt_brace (.inl hbrace)))
    fun hbrace => hdecls (declsAt_brace (.inr hbrace))

/-- The body of a method lies in any range that holds the children of the method in order. -/
theorem methodBody?_within {children : List Node} {range : Span}
    (hfits : ∀ child ∈ children, child.span.FitsIn text)
    (horder : InOrder range (children.map Node.span)) :
    ∀ body ∈ methodBody? children, body.span.FitsIn text ∧ body.span.Within range := by
  induction children generalizing range with
  | nil => simp [methodBody?]
  | cons child rest ih =>
    have hchild := hfits child List.mem_cons_self
    have hin := horder.within_range child.span List.mem_cons_self
    have hrest : ∀ body ∈ methodBody? rest, body.span.FitsIn text ∧ body.span.Within range := by
      intro body hbody
      obtain ⟨hbodyFits, hbodyIn⟩ := ih
        (fun other hmem => hfits other (List.mem_cons_of_mem _ hmem)) horder.tail body hbody
      have hlater : Within ⟨child.span.stop, range.stop⟩ range :=
        ⟨Nat.le_trans hin.start_le hchild.start_le_stop, Nat.le_refl _⟩
      exact ⟨hbodyFits, hbodyIn.trans hlater⟩
    intro body hbody
    rw [methodBody?.eq_def] at hbody
    simp only at hbody
    split at hbody
    · obtain rfl := Option.mem_some.mp hbody
      exact ⟨hchild, hin⟩
    · obtain rfl := Option.mem_some.mp hbody
      cases rest with
      | nil => exact ⟨hchild, hin⟩
      | cons next rest =>
        by_cases hsemicolon : next.kind = .semicolon
        · -- The body goes on through a semicolon that comes next.
          have hnext := hfits next (List.mem_cons_of_mem _ List.mem_cons_self)
          have hnextIn := horder.tail.within_range next.span List.mem_cons_self
          have hle : child.span.start ≤ next.span.stop :=
            Nat.le_trans hchild.start_le_stop
              (Nat.le_trans hnextIn.start_le hnext.start_le_stop)
          simp only [if_pos hsemicolon]
          exact ⟨⟨hle, hchild.start_boundary, hnext.stop_boundary⟩,
            ⟨hin.start_le, hnextIn.stop_le⟩⟩
        · simp only [if_neg hsemicolon]
          exact ⟨hchild, hin⟩
    · exact hrest body hbody

/-- A declaration that covers its node. -/
theorem yields_singleton {node : Node} (decl : Decl) (hdecls : node.declsAt text = [decl])
    (hspan : decl.span = node.span) (hdecl : decl.WellFormed text) : node.Yields text := by
  constructor
  · rw [hdecls]
    intro other hmem
    rwa [List.mem_singleton.mp hmem]
  · rw [hdecls, List.map_singleton, hspan]
    refine ⟨List.pairwise_singleton _ _, fun span hmem => ?_⟩
    rw [List.mem_singleton.mp hmem]
    exact Within.refl _

/-- A type is a well-formed declaration if its body is the body of a tree that fits. -/
theorem Fits.yields_typeDecl {node : Node} (h : node.Fits text) {classKind : ClassKind}
    (hkind : node.kind = .typeDecl classKind)
    (hyields : ∀ child ∈ node.children, ∀ member ∈ child.children, member.Yields text) :
    node.Yields text := by
  obtain ⟨kind, span, children⟩ := node
  have hkind : kind = .typeDecl classKind := hkind
  subst hkind
  have hspan : span.FitsIn text := h.span_fitsIn
  let name := (mk (.typeDecl classKind) span children).childText text .identifier
  cases hbody : bodyOf text children with
  | none =>
    refine yields_singleton (.bareClass name classKind span) ?_ rfl hspan
    rw [declsAt]
    simp only [hbody]
    rfl
  | some body =>
    obtain ⟨inner, members⟩ := body
    obtain ⟨list, hmem, hlist, rfl, rfl⟩ := exists_list_of_bodyOf hbody
    have hfits := h.children list hmem
    obtain ⟨horder, hmembers⟩ := hfits.members hlist (hyields list hmem)
    obtain ⟨hinner, hin⟩ := hfits.braceInterior
    have hlistIn : list.span.Within span :=
      h.inOrder.within_range list.span (List.mem_map_of_mem hmem)
    have hdecl : (Decl.fullClass name classKind span list.braceInterior
        (declsOf text list.children)).WellFormed text :=
      ⟨hspan, hinner, hin.trans hlistIn, horder, hmembers⟩
    refine yields_singleton _ ?_ rfl hdecl
    rw [declsAt]
    simp only [hbody]
    rfl

theorem Fits.yields_methodDecl {node : Node} (h : node.Fits text)
    (hkind : node.kind = .methodDecl) : node.Yields text := by
  obtain ⟨kind, span, children⟩ := node
  have hkind : kind = .methodDecl := hkind
  subst hkind
  have hbody := methodBody?_within (fun child hmem => (h.children child hmem).span_fitsIn) h.inOrder
  refine yields_singleton (.method ((mk .methodDecl span children).toMethod text)) ?_ rfl
    ⟨h.span_fitsIn, hbody⟩
  rw [declsAt]

theorem Fits.yields_other {node : Node} (h : node.Fits text)
    (htype : ∀ classKind, node.kind ≠ .typeDecl classKind) (hmethod : node.kind ≠ .methodDecl)
    (hyields : ∀ child ∈ node.children, child.Yields text) : node.Yields text := by
  obtain ⟨kind, span, children⟩ := node
  have hdecls : (mk kind span children).declsAt text =
      if kind.isNamed then declsOf text children else [] := by
    -- Every other kind is passed through, a name as well as an error.
    cases kind <;> first | rfl | exact absurd rfl (htype _) | exact absurd rfl hmethod
  have horder := h.inOrder
  by_cases hnamed : kind.isNamed
  · rw [if_pos hnamed] at hdecls
    have hin : ∀ child ∈ children, child.declsAt text ≠ [] → child.span.Within span :=
      fun child hmem _ => horder.within_range child.span (List.mem_map_of_mem hmem)
    have hdeclsOrder := inOrder_declsOf (List.pairwise_map.mp horder.pairwise_before) hyields hin
    exact ⟨hdecls ▸ wellFormed_of_mem_declsOf hyields, hdecls ▸ hdeclsOrder⟩
  · rw [if_neg hnamed] at hdecls
    refine ⟨?_, ?_⟩
    · simp [hdecls]
    · rw [hdecls]
      exact ⟨List.Pairwise.nil, fun _ hmem => absurd hmem List.not_mem_nil⟩

/-- In a tree whose ranges nest each node has well-formed declarations that lie in it in order, and
so has each of its children. -/
theorem Fits.yields {node : Node} (h : node.Fits text) :
    node.Yields text ∧ ∀ child ∈ node.children, child.Yields text := by
  induction node with
  | mk kind span children ih =>
    have hchildren : ∀ child ∈ children, child.Yields text :=
      fun child hmem => (ih child hmem (h.children child hmem)).1
    -- A type takes its members from its list of declarations, one level further down.
    have hmembers : ∀ child ∈ children, ∀ member ∈ child.children, member.Yields text :=
      fun child hmem => (ih child hmem (h.children child hmem)).2
    refine ⟨?_, hchildren⟩
    by_cases htype : ∃ classKind, kind = .typeDecl classKind
    · obtain ⟨classKind, hkind⟩ := htype
      exact h.yields_typeDecl hkind hmembers
    · by_cases hmethod : kind = .methodDecl
      · exact h.yields_methodDecl hmethod
      · exact h.yields_other (fun classKind hkind => htype ⟨classKind, hkind⟩) hmethod hchildren

end Node

/-- A tree whose ranges nest makes a well-formed source. -/
theorem Source.wellFormed_ofNode {text : String} {root : Node} (h : root.Fits text.toList) :
    (Source.ofNode text root).WellFormed := by
  have hyields := h.yields.2
  have hspan := h.span_fitsIn
  have hroot : root.span.Within ⟨0, Text.byteLength text.toList⟩ :=
    ⟨Nat.zero_le _, hspan.stop_boundary.le_byteLength⟩
  have hbefore := List.pairwise_map.mp h.inOrder.pairwise_before
  have horder := Node.inOrder_declsOf hbefore hyields fun child hmem _ =>
    h.inOrder.within_range child.span (List.mem_map_of_mem hmem)
  exact ⟨horder.mono hroot, allWellFormed_iff.mpr (Node.wellFormed_of_mem_declsOf hyields)⟩

/-- A tree whose ranges nest makes a source that is well-formed, can be redacted under all hidden
names, and is shown as it is with nothing hidden. -/
theorem redact?_ofNode {text : String} {root : Node} (h : root.Fits text.toList) :
    (Source.ofNode text root).WellFormed ∧
      (∀ placeholders hidden, ∃ out,
        (Source.ofNode text root).redact? placeholders hidden = some out) ∧
      ∀ placeholders, (Source.ofNode text root).redact? placeholders Hidden.empty = some text := by
  have hsource := Source.wellFormed_ofNode h
  exact ⟨hsource, fun placeholders hidden => ⟨_, hsource.redact?_eq_some_redact placeholders hidden⟩,
    fun placeholders => hsource.redact?_empty placeholders⟩

/-- The tree of a class that is not closed, in an error node and with a brace of no width. -/
def unclosedTree : Node :=
  .mk .unit ⟨0, 22⟩
    [.mk .error ⟨0, 22⟩
      [.mk (.typeDecl .plain) ⟨0, 22⟩
        [.mk (.other false) ⟨0, 5⟩ [],
          .mk .identifier ⟨6, 8⟩ [],
          .mk .declarationList ⟨8, 22⟩
            [.mk .openingBrace ⟨8, 9⟩ [],
              .mk (.other true) ⟨9, 22⟩
                [.mk .methodDecl ⟨9, 22⟩
                  [.mk .returnType ⟨9, 13⟩ [], .mk .identifier ⟨14, 15⟩ [],
                    .mk (.other true) ⟨15, 17⟩ [], .mk .arrowClause ⟨17, 21⟩ [],
                    .mk .semicolon ⟨21, 22⟩ []]],
              .mk .closingBrace ⟨22, 22⟩ []]]]]

/-- The text of an unclosed class comes back unchanged as long as nothing is hidden. -/
theorem redact?_ofNode_unclosedTree :
    unclosedTree.Fits "class Ä\x7bvoid F()=>12;".toList ∧
      (Source.ofNode "class Ä\x7bvoid F()=>12;" unclosedTree).redact? .standard Hidden.empty =
        some "class Ä\x7bvoid F()=>12;" := by
  have hfits : unclosedTree.Fits "class Ä\x7bvoid F()=>12;".toList := by decide
  exact ⟨hfits, (redact?_ofNode hfits).2.2 .standard⟩

end RedactedBundle
