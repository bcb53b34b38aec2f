import Mathlib.Data.Set.Basic
import RedactedBundle.Proofs.Redaction.EditScript

/-!
# The bytes that a redaction keeps

A byte of a well-formed source is copied exactly if no hidden region covers it, whether the region
is hidden itself or lies in a class that is. So what is kept under the names of two sets together is
what is kept under each of them: a name more to hide brings no byte back, and a name less takes none
away.

## Main definitions

- `Source.kept`: the positions of the bytes that are copied
- `Removes`: some of the regions is hidden and covers a position
- the union and the order of sets of hidden names

## Main statements

- `Source.WellFormed.mem_kept_iff`: a byte is kept if no hidden region covers it
- `Source.WellFormed.kept_union`: what is kept under two sets of hidden names
-/

namespace RedactedBundle

namespace NameSet

instance : Union NameSet := ⟨fun set other => other.names.foldl insert set⟩

@[simp] theorem mem_union {name : String} {set other : NameSet} :
    name ∈ set ∪ other ↔ name ∈ set ∨ name ∈ other :=
  mem_foldl_insert.trans Or.comm

end NameSet

namespace Hidden

instance : Union Hidden := ⟨fun a b => ⟨a.classes ∪ b.classes, a.methods ∪ b.methods⟩⟩

/-- All that is hidden in the first is hidden in the second. -/
instance : LE Hidden :=
  ⟨fun a b => (∀ name ∈ a.classes, name ∈ b.classes) ∧ ∀ name ∈ a.methods, name ∈ b.methods⟩

variable (hidden : Hidden) (name : String)

theorem le_setClass : hidden ≤ hidden.setClass name true :=
  ⟨fun _ h => by simp [h], fun _ h => h⟩

theorem le_setMethod : hidden ≤ hidden.setMethod name true :=
  ⟨fun _ h => h, fun _ h => by simp [h]⟩

theorem setClass_le : hidden.setClass name false ≤ hidden := by
  refine ⟨fun other h => ?_, fun _ h => h⟩
  rw [mem_classes_setClass] at h
  split at h
  · cases h
  · exact h

theorem setMethod_le : hidden.setMethod name false ≤ hidden := by
  refine ⟨fun _ h => h, fun other h => ?_⟩
  rw [mem_methods_setMethod] at h
  split at h
  · cases h
  · exact h

end Hidden

namespace Region

theorem isHidden_union {a b : Hidden} (region : Region) :
    region.IsHidden (a ∪ b) ↔ region.IsHidden a ∨ region.IsHidden b := by
  cases region <;> exact NameSet.mem_union

theorem IsHidden.mono {a b : Hidden} {region : Region} (h : region.IsHidden a) (hle : a ≤ b) :
    region.IsHidden b := by
  cases region with
  | classInside name span => exact hle.1 name h
  | methodBody name span => exact hle.2 name h

end Region

/-- The byte at the position lies in the span. -/
def Span.Covers (span : Span) (position : Nat) : Prop :=
  span.start ≤ position ∧ position < span.stop

instance (span : Span) (position : Nat) : Decidable (span.Covers position) :=
  inferInstanceAs (Decidable (_ ∧ _))

theorem Span.Covers.mono {inner outer : Span} {position : Nat} (h : inner.Covers position)
    (hin : inner.Within outer) : outer.Covers position :=
  ⟨Nat.le_trans hin.start_le h.1, Nat.lt_of_lt_of_le h.2 hin.stop_le⟩

/-- The piece is a stretch of the source with the position in it. -/
def Piece.Copies : Piece → Nat → Prop
  | .source span, position => span.Covers position
  | .collapsed _, _ => False
  | .hiddenBody, _ => False

instance : (piece : Piece) → (position : Nat) → Decidable (piece.Copies position)
  | .source span, position => inferInstanceAs (Decidable (span.Covers position))
  | .collapsed _, _ => inferInstanceAs (Decidable False)
  | .hiddenBody, _ => inferInstanceAs (Decidable False)

@[simp] theorem Piece.copies_source {span : Span} {position : Nat} :
    (Piece.source span).Copies position ↔ span.Covers position := Iff.rfl

/-- One of the pieces copies the byte at the position. -/
def Copies (pieces : List Piece) (position : Nat) : Prop := ∃ piece ∈ pieces, piece.Copies position

/-- The positions of the bytes that are copied when the source is redacted. -/
def Source.kept (source : Source) (hidden : Hidden) : Set Nat :=
  {position | Copies (source.pieces hidden) position}

instance (source : Source) (hidden : Hidden) (position : Nat) :
    Decidable (position ∈ source.kept hidden) :=
  inferInstanceAs (Decidable (∃ piece ∈ source.pieces hidden, piece.Copies position))

/-- Some of the regions is hidden and covers the position. -/
def Removes (hidden : Hidden) (regions : List NestedRegion) (position : Nat) : Prop :=
  ∃ r ∈ regions, r.region.IsHidden hidden ∧ r.region.span.Covers position

variable {hidden : Hidden} {around : List Region} {text : List Char} {position : Nat}

@[simp] theorem copies_nil : ¬ Copies [] position := by simp [Copies]

@[simp] theorem copies_cons {piece : Piece} {pieces : List Piece} :
    Copies (piece :: pieces) position ↔ piece.Copies position ∨ Copies pieces position := by
  simp [Copies]

@[simp] theorem copies_append {xs ys : List Piece} :
    Copies (xs ++ ys) position ↔ Copies xs position ∨ Copies ys position := by
  simp only [Copies, List.mem_append, or_and_right, exists_or]

@[simp] theorem removes_nil : ¬ Removes hidden [] position := by simp [Removes]

@[simp] theorem removes_cons {r : NestedRegion} {regions : List NestedRegion} :
    Removes hidden (r :: regions) position ↔
      (r.region.IsHidden hidden ∧ r.region.span.Covers position) ∨
        Removes hidden regions position := by
  simp [Removes]

@[simp] theorem removes_append {xs ys : List NestedRegion} :
    Removes hidden (xs ++ ys) position ↔
      Removes hidden xs position ∨ Removes hidden ys position := by
  simp only [Removes, List.mem_append, or_and_right, exists_or]

/-- What is removed of a declaration lies inside it. -/
theorem Decl.WellFormed.covers_of_removes {decl : Decl} (h : decl.WellFormed text)
    (hremoved : Removes hidden (decl.regions around) position) : decl.span.Covers position := by
  obtain ⟨r, hr, _, hcovers⟩ := hremoved
  exact hcovers.mono (h.region_within hr).1

theorem covers_of_removes_regionsOf {decls : List Decl} {range : Span}
    (hdecls : ∀ decl ∈ decls, decl.WellFormed text)
    (horder : Span.InOrder range (decls.map Decl.span))
    (hremoved : Removes hidden (regionsOf around decls) position) : range.Covers position := by
  obtain ⟨r, hr, hhidden, hcovers⟩ := hremoved
  obtain ⟨decl, hdecl, hr⟩ := mem_regionsOf.mp hr
  have hin := horder.within_range decl.span (List.mem_map_of_mem hdecl)
  exact ((hdecls decl hdecl).covers_of_removes ⟨r, hr, hhidden, hcovers⟩).mono hin

/-- Around a hidden region everything else of a declaration is copied. -/
theorem Region.copies_around (region : Region) (position : Nat) {span : Span}
    (hin : region.span.Within span) (hregion : region.span.start ≤ region.span.stop) :
    Copies [.source ⟨span.start, region.span.start⟩, region.piece,
        .source ⟨region.span.stop, span.stop⟩] position ↔
      span.Covers position ∧ ¬ region.span.Covers position := by
  have hpiece : ¬ region.piece.Copies position := by cases region <;> exact id
  obtain ⟨hstart, hstop⟩ := hin
  simp only [copies_cons, copies_nil, hpiece, Piece.copies_source, Span.Covers, false_or, or_false]
  omega

/-- In a range with declarations the bytes outside all hidden regions are copied, if that is so for
each declaration. -/
theorem copies_piecesFrom_iff {decls : List Decl} {start stop : Nat} (hrange : start ≤ stop)
    (horder : Span.InOrder ⟨start, stop⟩ (decls.map Decl.span))
    (hdecls : ∀ decl ∈ decls, decl.WellFormed text)
    (hcopies : ∀ decl ∈ decls, (Copies (decl.pieces hidden) position ↔
      decl.span.Covers position ∧ ¬ Removes hidden (decl.regions around) position)) :
    Copies (piecesFrom hidden stop start decls) position ↔
      Span.Covers ⟨start, stop⟩ position ∧
        ¬ Removes hidden (regionsOf around decls) position := by
  induction decls generalizing start with
  | nil => simp [piecesFrom, regionsOf]
  | cons decl rest ih =>
    have hdecl := hdecls decl List.mem_cons_self
    have hrest : ∀ other ∈ rest, other.WellFormed text :=
      fun other hmem => hdecls other (List.mem_cons_of_mem _ hmem)
    obtain ⟨hstart, hstop⟩ := horder.within_range decl.span List.mem_cons_self
    have htail := ih hstop horder.tail hrest fun other hmem =>
      hcopies other (List.mem_cons_of_mem _ hmem)
    -- Each region lies on the side of its declaration, so the position decides which ones matter.
    have hremoves : Removes hidden (decl.regions around) position → decl.span.Covers position :=
      hdecl.covers_of_removes
    have hremovesRest : Removes hidden (regionsOf around rest) position →
        Span.Covers ⟨decl.span.stop, stop⟩ position :=
      covers_of_removes_regionsOf hrest horder.tail
    have hfits := hdecl.span_fitsIn.start_le_stop
    rw [piecesFrom, regionsOf, removes_append, copies_cons, copies_append, htail,
      hcopies decl List.mem_cons_self]
    simp only [Piece.copies_source, Span.Covers] at hstart hstop hremoves hremovesRest ⊢
    grind

/-- Of a well-formed declaration the bytes outside all its hidden regions are copied. -/
theorem Decl.WellFormed.copies_iff {decl : Decl} (h : decl.WellFormed text) :
    Copies (decl.pieces hidden) position ↔
      decl.span.Covers position ∧ ¬ Removes hidden (decl.regions around) position := by
  induction decl generalizing around with
  | bareClass name kind span => simp [Decl.pieces, Decl.regions, Decl.span]
  | fullClass name kind span inner members ih =>
    obtain ⟨hspan, hinner, hin, horder, hmembers⟩ := h
    have hmembers := allWellFormed_iff.mp hmembers
    rw [Decl.pieces, Decl.regions, removes_cons]
    by_cases hname : name ∈ hidden.classes
    · -- The members lie inside the class, so their regions remove nothing more.
      have hcovered : Removes hidden (regionsOf (.classInside name inner :: around) members)
          position → inner.Covers position := covers_of_removes_regionsOf hmembers horder
      have hhidden : (Region.classInside name inner).IsHidden hidden := hname
      have haround := (Region.classInside name inner).copies_around position hin
        hinner.start_le_stop
      rw [if_pos hname]
      refine haround.trans (and_congr_right fun _ => not_congr ?_)
      exact ⟨fun hmem => .inl ⟨hhidden, hmem⟩, fun hmem => hmem.elim And.right hcovered⟩
    · have hhidden : ¬ (Region.classInside name inner).IsHidden hidden := hname
      rw [if_neg hname]
      simp only [hhidden, false_and, false_or]
      exact copies_piecesFrom_iff hspan.start_le_stop (horder.mono hin) hmembers
        fun member hmember => ih member hmember (hmembers member hmember)
  | method m =>
    obtain ⟨hspan, hbody⟩ := h
    rw [Decl.pieces, Decl.regions]
    cases hm : m.body with
    | none => simp [Decl.span]
    | some body =>
      obtain ⟨hfits, hin⟩ := hbody body hm
      by_cases hname : m.name ∈ hidden.methods
      · have hhidden : (Region.methodBody m.name body.span).IsHidden hidden := hname
        have haround := (Region.methodBody m.name body.span).copies_around position
          hin hfits.start_le_stop
        simp only [if_pos hname, removes_cons, hhidden, true_and, removes_nil, or_false]
        exact haround
      · have hhidden : ¬ (Region.methodBody m.name body.span).IsHidden hidden := hname
        simp [hname, hhidden, Decl.span]

namespace Source.WellFormed

variable {source : Source}

/-- A byte of a well-formed source is kept exactly if no hidden region covers it. -/
theorem mem_kept_iff (h : source.WellFormed) (hidden : Hidden) (position : Nat) :
    position ∈ source.kept hidden ↔ position < Text.byteLength source.text.toList ∧
      ¬ Removes hidden source.regions position := by
  have hdecls := allWellFormed_iff.mp h.decls
  have hcopies : position ∈ source.kept hidden ↔
      Span.Covers ⟨0, Text.byteLength source.text.toList⟩ position ∧
        ¬ Removes hidden source.regions position :=
    copies_piecesFrom_iff (Nat.zero_le _) h.inOrder hdecls fun decl hdecl =>
      (hdecls decl hdecl).copies_iff
  refine hcopies.trans (and_congr_left fun _ => ?_)
  exact ⟨And.right, fun hlt => ⟨Nat.zero_le _, hlt⟩⟩

/-- The more is hidden, the less is kept. -/
theorem kept_subset_kept (h : source.WellFormed) {a b : Hidden} (hle : a ≤ b) :
    source.kept b ⊆ source.kept a := by
  intro position hmem
  obtain ⟨hlt, hnone⟩ := (h.mem_kept_iff b position).mp hmem
  refine (h.mem_kept_iff a position).mpr ⟨hlt, ?_⟩
  rintro ⟨r, hr, hhidden, hcovers⟩
  exact hnone ⟨r, hr, hhidden.mono hle, hcovers⟩

/-- What is kept under two sets of hidden names together is what is kept under both. So hiding one
name more brings nothing back, and showing one takes nothing away. -/
theorem kept_union (h : source.WellFormed) (a b : Hidden) :
    source.kept (a ∪ b) = source.kept a ∩ source.kept b ∧
      ∀ name,
        source.kept (a.setClass name true) ⊆ source.kept a ∧
        source.kept (a.setMethod name true) ⊆ source.kept a ∧
        source.kept a ⊆ source.kept (a.setClass name false) ∧
        source.kept a ⊆ source.kept (a.setMethod name false) := by
  constructor
  · ext position
    have hunion : Removes (a ∪ b) source.regions position ↔
        Removes a source.regions position ∨ Removes b source.regions position := by
      simp only [Removes, Region.isHidden_union, or_and_right, and_or_left, exists_or]
    rw [Set.mem_inter_iff, h.mem_kept_iff, h.mem_kept_iff, h.mem_kept_iff, hunion, not_or]
    exact and_and_left
  · intro name
    exact ⟨h.kept_subset_kept (a.le_setClass name), h.kept_subset_kept (a.le_setMethod name),
      h.kept_subset_kept (a.setClass_le name), h.kept_subset_kept (a.setMethod_le name)⟩

end Source.WellFormed

/-- The body of one method goes with the inner class and with its own name, that of the other one
with its name only. -/
theorem kept_union_nestedSample :
    nestedSample.WellFormed ∧
      nestedSample.kept (.ofLists ["B"] [] ∪ .ofLists [] ["G"]) =
        nestedSample.kept (.ofLists ["B"] []) ∩ nestedSample.kept (.ofLists [] ["G"]) ∧
      27 ∉ nestedSample.kept (.ofLists ["B"] []) ∧ 27 ∉ nestedSample.kept (.ofLists [] ["G"]) ∧
      43 ∈ nestedSample.kept (.ofLists ["B"] []) ∧ 43 ∉ nestedSample.kept (.ofLists [] ["G"]) := by
  have hwell : nestedSample.WellFormed := by decide
  refine ⟨hwell, (hwell.kept_union (.ofLists ["B"] []) (.ofLists [] ["G"])).1, ?_, ?_, ?_, ?_⟩
  all_goals decide +kernel

end RedactedBundle
