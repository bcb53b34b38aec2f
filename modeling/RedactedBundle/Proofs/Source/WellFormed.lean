import RedactedBundle.Proofs.Text.Slice
import RedactedBundle.Source.Declaration

/-!
# Well-formed sources

The contract between the reader of a source and what works on its declarations: on every level the
spans of the declarations are in order and apart from each other, they lie between characters of
the text, and what belongs to a declaration lies inside it.

## Main definitions

- `Span.FitsIn`, `Span.Within`, `Span.InOrder`: how spans lie in a text and to each other
- `Decl.WellFormed`, `Source.WellFormed`: the contract on a declaration and on a source
- `Decl.inductionOnMembers`: induction along the members of classes
-/

namespace RedactedBundle

namespace Span

/-- The ends of the span are in order and lie between characters of the text. -/
structure FitsIn (span : Span) (text : List Char) : Prop where
  start_le_stop : span.start ≤ span.stop
  start_boundary : Text.IsBoundary text span.start
  stop_boundary : Text.IsBoundary text span.stop

/-- The span lies inside another one; they may share ends. -/
structure Within (inner outer : Span) : Prop where
  start_le : outer.start ≤ inner.start
  stop_le : inner.stop ≤ outer.stop

/-- The span ends where the other one starts, or earlier. -/
def Before (first second : Span) : Prop := first.stop ≤ second.start

/-- The spans lie inside a range, each before all that come after it. -/
structure InOrder (range : Span) (spans : List Span) : Prop where
  pairwise_before : spans.Pairwise Before
  within_range : ∀ span ∈ spans, span.Within range

instance (span : Span) (text : List Char) : Decidable (span.FitsIn text) :=
  decidable_of_iff (span.start ≤ span.stop ∧ Text.IsBoundary text span.start ∧
      Text.IsBoundary text span.stop)
    ⟨fun ⟨hle, hstart, hstop⟩ => ⟨hle, hstart, hstop⟩, fun ⟨hle, hstart, hstop⟩ => ⟨hle, hstart, hstop⟩⟩

instance (inner outer : Span) : Decidable (inner.Within outer) :=
  decidable_of_iff (outer.start ≤ inner.start ∧ inner.stop ≤ outer.stop)
    ⟨fun ⟨hstart, hstop⟩ => ⟨hstart, hstop⟩, fun ⟨hstart, hstop⟩ => ⟨hstart, hstop⟩⟩

instance : DecidableRel Before := fun first second =>
  inferInstanceAs (Decidable (first.stop ≤ second.start))

instance (range : Span) (spans : List Span) : Decidable (InOrder range spans) :=
  decidable_of_iff (spans.Pairwise Before ∧ ∀ span ∈ spans, span.Within range)
    ⟨fun ⟨hpair, hin⟩ => ⟨hpair, hin⟩, fun ⟨hpair, hin⟩ => ⟨hpair, hin⟩⟩

/-- A span between boundaries can be cut out of the text. -/
theorem FitsIn.exists_slice? {span : Span} {text : List Char} (h : span.FitsIn text) :
    ∃ part, Text.slice? text span = some part :=
  Text.exists_slice? h.start_boundary h.stop_boundary h.start_le_stop

theorem Within.trans {a b c : Span} (hab : a.Within b) (hbc : b.Within c) : a.Within c :=
  ⟨Nat.le_trans hbc.start_le hab.start_le, Nat.le_trans hab.stop_le hbc.stop_le⟩

theorem Within.refl (span : Span) : span.Within span := ⟨Nat.le_refl _, Nat.le_refl _⟩

theorem InOrder.mono {inner outer : Span} {spans : List Span} (h : InOrder inner spans)
    (hin : inner.Within outer) : InOrder outer spans :=
  ⟨h.pairwise_before, fun span hmem => (h.within_range span hmem).trans hin⟩

/-- The spans behind the first one lie between its end and the end of the range. -/
theorem InOrder.tail {range span : Span} {spans : List Span}
    (h : InOrder range (span :: spans)) : InOrder ⟨span.stop, range.stop⟩ spans := by
  obtain ⟨hbefore, hpair⟩ := List.pairwise_cons.mp h.pairwise_before
  refine ⟨hpair, fun other hmem => ⟨hbefore other hmem, ?_⟩⟩
  exact (h.within_range other (List.mem_cons_of_mem _ hmem)).stop_le

end Span

mutual

/-- The spans of the declaration and of all it holds lie between characters of the text. The inside
of a class and the body of a method lie inside the declaration, and the members of a class inside
its inside, in order. -/
def Decl.WellFormed (text : List Char) : Decl → Prop
  | .bareClass _ _ span => span.FitsIn text
  | .fullClass _ _ span inner members =>
    span.FitsIn text ∧ inner.FitsIn text ∧ inner.Within span ∧
      Span.InOrder inner (members.map Decl.span) ∧ AllWellFormed text members
  | .method m =>
    m.span.FitsIn text ∧ ∀ body ∈ m.body, body.span.FitsIn text ∧ body.span.Within m.span

/-- Each declaration of a list is well-formed. -/
def AllWellFormed (text : List Char) : List Decl → Prop
  | [] => True
  | decl :: rest => decl.WellFormed text ∧ AllWellFormed text rest

end

/-- The declarations of the source are well-formed over its text and lie in it in order. -/
structure Source.WellFormed (source : Source) : Prop where
  inOrder : Span.InOrder ⟨0, Text.byteLength source.text.toList⟩ (source.decls.map Decl.span)
  decls : AllWellFormed source.text.toList source.decls

/-- To prove a statement of all declarations, it may be assumed of the members of a class. -/
@[elab_as_elim, induction_eliminator]
theorem Decl.inductionOnMembers {motive : Decl → Prop}
    (bareClass : ∀ name kind span, motive (.bareClass name kind span))
    (fullClass : ∀ name kind span inner members, (∀ decl ∈ members, motive decl) →
      motive (.fullClass name kind span inner members))
    (method : ∀ m, motive (.method m)) : ∀ decl, motive decl
  | .bareClass name kind span => bareClass name kind span
  | .fullClass name kind span inner members =>
    fullClass name kind span inner members fun decl _ =>
      inductionOnMembers bareClass fullClass method decl
  | .method m => method m

theorem allWellFormed_iff {text : List Char} {decls : List Decl} :
    AllWellFormed text decls ↔ ∀ decl ∈ decls, decl.WellFormed text := by
  induction decls with
  | nil => simp [AllWellFormed]
  | cons decl rest ih => simp [AllWellFormed, ih]

mutual

instance Decl.decidableWellFormed (text : List Char) :
    (decl : Decl) → Decidable (decl.WellFormed text)
  | .bareClass _ _ span => inferInstanceAs (Decidable (span.FitsIn text))
  | .fullClass _ _ span inner members =>
    have := decidableAllWellFormed text members
    inferInstanceAs (Decidable (span.FitsIn text ∧ inner.FitsIn text ∧ inner.Within span ∧
      Span.InOrder inner (members.map Decl.span) ∧ AllWellFormed text members))
  | .method m => inferInstanceAs (Decidable (m.span.FitsIn text ∧
      ∀ body ∈ m.body, body.span.FitsIn text ∧ body.span.Within m.span))

instance decidableAllWellFormed (text : List Char) :
    (decls : List Decl) → Decidable (AllWellFormed text decls)
  | [] => inferInstanceAs (Decidable True)
  | decl :: rest =>
    have := Decl.decidableWellFormed text decl
    have := decidableAllWellFormed text rest
    inferInstanceAs (Decidable (decl.WellFormed text ∧ AllWellFormed text rest))

end

instance (source : Source) : Decidable source.WellFormed :=
  decidable_of_iff (Span.InOrder ⟨0, Text.byteLength source.text.toList⟩
        (source.decls.map Decl.span) ∧ AllWellFormed source.text.toList source.decls)
    ⟨fun ⟨horder, hdecls⟩ => ⟨horder, hdecls⟩, fun ⟨horder, hdecls⟩ => ⟨horder, hdecls⟩⟩

/-- A well-formed declaration can be cut out of the text. -/
theorem Decl.WellFormed.span_fitsIn {text : List Char} {decl : Decl}
    (h : decl.WellFormed text) : decl.span.FitsIn text := by
  cases decl with
  | bareClass name kind span => exact h
  | fullClass name kind span inner members => exact h.1
  | method m => exact h.1

end RedactedBundle
