import RedactedBundle.Proofs.Redaction.Regions

/-!
# The edits of a redaction

Redacting a well-formed source succeeds, and makes exactly the edits that its outermost hidden
regions call for: the bytes of each give way to one comment, and every other byte is copied.

## Main definitions

- `Renders`: pieces whose text is that of a span with some edits made in it

## Main statements

- `Renders.append`: the pieces of neighbouring spans render the joined span
- `Decl.WellFormed.renders`: the layout of a declaration makes the edits of its hidden regions
- `Source.WellFormed.exists_edited`: so does the layout of a whole source
- `Source.WellFormed.redact_eq_empty_iff`: when nothing is left to show
-/

namespace RedactedBundle

open Text (Edit Edited)

/-- The text of the pieces is that of the span with some edits made in it. -/
def Renders (placeholders : Placeholders) (text : List Char) (pieces : List Piece) (span : Span)
    (edits : List Edit) : Prop :=
  ∃ part out, Text.slice? text span = some part ∧
    joinPieces? placeholders text pieces = some out ∧ Edited span.start part edits out

/-- The piece that stands for a hidden region. -/
def Region.piece : Region → Piece
  | classInside _ span => .collapsed span.stop
  | methodBody _ _ => .hiddenBody

variable {placeholders : Placeholders} {hidden : Hidden} {text : List Char}

theorem joinPieces?_append (xs ys : List Piece) :
    joinPieces? placeholders text (xs ++ ys) =
      (joinPieces? placeholders text xs).bind fun head =>
        (joinPieces? placeholders text ys).map (head ++ ·) := by
  induction xs with
  | nil => simp [joinPieces?]
  | cons piece rest ih =>
    rw [List.cons_append, joinPieces?, joinPieces?, ih]
    cases piece.text? placeholders text with
    | none => rfl
    | some head =>
      cases joinPieces? placeholders text rest with
      | none => rfl
      | some middle =>
        cases joinPieces? placeholders text ys with
        | none => rfl
        | some tail => simp

/-- Spans that meet are rendered one after the other. -/
theorem Renders.append {xs ys : List Piece} {a b c : Nat} {edits edits' : List Edit}
    (hx : Renders placeholders text xs ⟨a, b⟩ edits)
    (hy : Renders placeholders text ys ⟨b, c⟩ edits') :
    Renders placeholders text (xs ++ ys) ⟨a, c⟩ (edits ++ edits') := by
  obtain ⟨part, out, hslice, hjoin, hedited⟩ := hx
  obtain ⟨part', out', hslice', hjoin', hedited'⟩ := hy
  have hmeet : a + Text.byteLength part = b := Text.byteLength_of_slice? hslice
  refine ⟨part ++ part', out ++ out', Text.slice?_trans hslice hslice', ?_, ?_⟩
  · rw [joinPieces?_append, hjoin, hjoin']
    rfl
  · exact hedited.append (by rwa [hmeet])

/-- A copied span is rendered without edits. -/
theorem renders_source {span : Span} (h : span.FitsIn text) :
    Renders placeholders text [.source span] span [] := by
  obtain ⟨part, hslice⟩ := h.exists_slice?
  refine ⟨part, part, hslice, ?_, .copied span.start part⟩
  simp [joinPieces?, Piece.text?, hslice]

/-- The piece of a hidden region has the comment as its text. -/
theorem Region.text?_piece {region : Region} (h : region.span.FitsIn text) :
    region.piece.text? placeholders text = some (region.comment placeholders text) := by
  cases region with
  | classInside name span =>
    obtain ⟨before, hbefore⟩ := h.stop_boundary.exists_takeBytes?
    have hbefore : Text.takeBytes? text span.stop = some before := hbefore
    simp [piece, Piece.text?, comment, Placeholders.inClass, Text.indentAt, hbefore]
  | methodBody name span => rfl

/-- A hidden region is rendered by its edit. -/
theorem Region.renders_piece {region : Region} (h : region.span.FitsIn text) :
    Renders placeholders text [region.piece] region.span [region.edit placeholders text] := by
  obtain ⟨part, hslice⟩ := h.exists_slice?
  refine ⟨part, region.comment placeholders text, hslice, ?_, ?_⟩
  · simp [joinPieces?, region.text?_piece h]
  · exact Edited.whole (region.edit placeholders text) part (Text.byteLength_of_slice? hslice)

/-- A declaration whose own region is hidden is rendered by the edit of that region. -/
theorem Region.renders_around (region : Region) {span : Span} (hspan : span.FitsIn text)
    (hregion : region.span.FitsIn text) (hin : region.span.Within span) :
    Renders placeholders text
      [.source ⟨span.start, region.span.start⟩, region.piece, .source ⟨region.span.stop, span.stop⟩]
      span [region.edit placeholders text] := by
  have hfront : Renders placeholders text [.source ⟨span.start, region.span.start⟩]
      ⟨span.start, region.span.start⟩ [] :=
    renders_source ⟨hin.start_le, hspan.start_boundary, hregion.start_boundary⟩
  have hback : Renders placeholders text [.source ⟨region.span.stop, span.stop⟩]
      ⟨region.span.stop, span.stop⟩ [] :=
    renders_source ⟨hin.stop_le, hregion.stop_boundary, hspan.stop_boundary⟩
  exact (hfront.append (region.renders_piece hregion)).append hback

/-- The edits of the outermost hidden regions among some regions. -/
def outermostEdits (placeholders : Placeholders) (hidden : Hidden) (text : List Char)
    (regions : List NestedRegion) : List Edit :=
  (outermost hidden regions).map (Region.edit placeholders text)

@[simp] theorem outermostEdits_append (xs ys : List NestedRegion) :
    outermostEdits placeholders hidden text (xs ++ ys) =
      outermostEdits placeholders hidden text xs ++ outermostEdits placeholders hidden text ys := by
  simp [outermostEdits]

/-- The layout of a range with declarations in it makes the edits of all of them, if the layout of
each makes its own. -/
theorem renders_piecesFrom {around : List Region} {decls : List Decl} {start stop : Nat}
    (hrange : Span.FitsIn ⟨start, stop⟩ text)
    (horder : Span.InOrder ⟨start, stop⟩ (decls.map Decl.span))
    (hdecls : ∀ decl ∈ decls, decl.WellFormed text)
    (hrenders : ∀ decl ∈ decls, Renders placeholders text (decl.pieces hidden) decl.span
      (outermostEdits placeholders hidden text (decl.regions around))) :
    Renders placeholders text (piecesFrom hidden stop start decls) ⟨start, stop⟩
      (outermostEdits placeholders hidden text (regionsOf around decls)) := by
  induction decls generalizing start with
  | nil =>
    rw [piecesFrom, regionsOf]
    exact renders_source hrange
  | cons decl rest ih =>
    have hfits := (hdecls decl List.mem_cons_self).span_fitsIn
    have hin := horder.within_range decl.span List.mem_cons_self
    have hfront : Renders placeholders text [.source ⟨start, decl.span.start⟩]
        ⟨start, decl.span.start⟩ [] :=
      renders_source ⟨hin.start_le, hrange.start_boundary, hfits.start_boundary⟩
    have hdecl := hrenders decl List.mem_cons_self
    have hrest := ih ⟨hin.stop_le, hfits.stop_boundary, hrange.stop_boundary⟩ horder.tail
      (fun other hmem => hdecls other (List.mem_cons_of_mem _ hmem))
      (fun other hmem => hrenders other (List.mem_cons_of_mem _ hmem))
    rw [piecesFrom, regionsOf, outermostEdits_append]
    exact hfront.append (hdecl.append hrest)

/-- The layout of a well-formed declaration with nothing hidden around it makes the edits of its
outermost hidden regions. -/
theorem Decl.WellFormed.renders {decl : Decl} (h : decl.WellFormed text) {around : List Region}
    (haround : ∀ outer ∈ around, ¬ outer.IsHidden hidden) :
    Renders placeholders text (decl.pieces hidden) decl.span
      (outermostEdits placeholders hidden text (decl.regions around)) := by
  induction decl generalizing around with
  | bareClass name kind span => exact renders_source h
  | fullClass name kind span inner members ih =>
    obtain ⟨hspan, hinner, hin, horder, hmembers⟩ := h
    have hmembers := allWellFormed_iff.mp hmembers
    rw [Decl.pieces, outermostEdits, outermost_regions_fullClass _ _ _ _ _ haround]
    by_cases hname : name ∈ hidden.classes
    · -- The class goes as a whole; its members have no say any more.
      rw [if_pos hname, if_pos hname]
      exact Region.renders_around (.classInside name inner) hspan hinner hin
    · rw [if_neg hname, if_neg hname]
      have hnone := not_isHidden_classInside_cons inner hname haround
      exact renders_piecesFrom hspan (horder.mono hin) hmembers fun member hmember =>
        ih member hmember (hmembers member hmember) hnone
  | method m =>
    obtain ⟨hspan, hbody⟩ := h
    rw [Decl.pieces, outermostEdits, outermost_regions_method m haround]
    cases hm : m.body with
    | none => exact renders_source hspan
    | some body =>
      obtain ⟨hfits, hin⟩ := hbody body hm
      by_cases hname : m.name ∈ hidden.methods
      · simp only [if_pos hname]
        exact Region.renders_around (.methodBody m.name body.span) hspan hfits hin
      · simp only [if_neg hname]
        exact renders_source hspan

namespace Source.WellFormed

variable {source : Source}

/-- Redacting a well-formed source gives its text with the outermost hidden regions replaced. -/
theorem exists_edited (h : source.WellFormed) (placeholders : Placeholders) (hidden : Hidden) :
    ∃ out, source.redact? placeholders hidden = some (String.ofList out) ∧
      Edited 0 source.text.toList (source.edits placeholders hidden) out := by
  have hdecls := allWellFormed_iff.mp h.decls
  have hrange : Span.FitsIn ⟨0, Text.byteLength source.text.toList⟩ source.text.toList :=
    ⟨Nat.zero_le _, Text.isBoundary_zero _, Text.isBoundary_byteLength _⟩
  have hrenders : Renders placeholders source.text.toList (source.pieces hidden)
      ⟨0, Text.byteLength source.text.toList⟩ (source.edits placeholders hidden) :=
    renders_piecesFrom hrange h.inOrder hdecls fun decl hdecl =>
      (hdecls decl hdecl).renders (List.forall_mem_nil _)
  obtain ⟨part, out, hslice, hjoin, hedited⟩ := hrenders
  rw [Text.slice?_self, Option.some.injEq] at hslice
  subst hslice
  refine ⟨out, ?_, hedited⟩
  rw [Source.redact?, hjoin]
  rfl

theorem redact?_eq_some_redact (h : source.WellFormed) (placeholders : Placeholders)
    (hidden : Hidden) :
    source.redact? placeholders hidden = some (source.redact placeholders hidden) := by
  obtain ⟨out, hout, _⟩ := h.exists_edited placeholders hidden
  rw [Source.redact, hout]
  rfl

/-- The redaction of a well-formed source is its text with the outermost hidden regions
replaced. -/
theorem edited_redact (h : source.WellFormed) (placeholders : Placeholders) (hidden : Hidden) :
    Edited 0 source.text.toList (source.edits placeholders hidden)
      (source.redact placeholders hidden).toList := by
  obtain ⟨out, hout, hedited⟩ := h.exists_edited placeholders hidden
  rw [Source.redact, hout]
  simpa using hedited

/-- With nothing hidden a well-formed source is shown as it is. -/
theorem redact?_empty (h : source.WellFormed) (placeholders : Placeholders) :
    source.redact? placeholders Hidden.empty = some source.text := by
  obtain ⟨out, hout, hedited⟩ := h.exists_edited placeholders Hidden.empty
  have hnone : source.edits placeholders Hidden.empty = [] := by
    rw [Source.edits, List.map_eq_nil_iff, Source.hiddenRegions, outermost, List.map_eq_nil_iff,
      List.filter_eq_nil_iff]
    intro r _
    simp only [decide_eq_true_eq]
    exact fun houtermost => r.region.not_isHidden_empty houtermost.1
  rw [hnone] at hedited
  rw [hout, hedited.unique (.copied 0 source.text.toList), String.ofList_toList]

/-- Redacting a well-formed source succeeds. The result is the one that the text becomes when each
outermost hidden region gives way to its comment and nothing else changes. Regions around a region
hold it, and of two regions one is around the other or they lie apart. -/
theorem redact?_edited (h : source.WellFormed) (placeholders : Placeholders) (hidden : Hidden) :
    source.redact? placeholders hidden = some (source.redact placeholders hidden) ∧
      (∀ result, Edited 0 source.text.toList (source.edits placeholders hidden) result ↔
        result = (source.redact placeholders hidden).toList) ∧
      (∀ r ∈ source.regions, ∀ outer ∈ r.around, r.region.span.Within outer.span) ∧
      source.regions.Pairwise NestedRegion.AroundOrBefore := by
  refine ⟨h.redact?_eq_some_redact placeholders hidden, fun result => ?_,
    fun r hr outer houter => h.within_around hr houter, h.regions_pairwise⟩
  have hedited := h.edited_redact placeholders hidden
  constructor
  · intro hresult
    exact hresult.unique hedited
  · rintro rfl
    exact hedited

end Source.WellFormed

/-- A class with another class, a method with an arrow and a method in braces in it. -/
def nestedSample : Source :=
  ⟨"class Ä\x7b\n\tclass B\x7bint G()=>1;\n\t\x7d\n\tint G()=>1;void F()\x7bx\x7d\x7d;",
    [.fullClass "Ä" .plain ⟨0, 59⟩ ⟨9, 57⟩
      [.fullClass "B" .plain ⟨11, 33⟩ ⟨19, 32⟩
          [.method ⟨"G", "int", ⟨19, 30⟩, some ⟨⟨26, 30⟩, .expression⟩⟩],
        .method ⟨"G", "int", ⟨35, 46⟩, some ⟨⟨42, 46⟩, .expression⟩⟩,
        .method ⟨"F", "void", ⟨46, 57⟩, some ⟨⟨54, 57⟩, .block⟩⟩]]⟩

/-- The inner class goes with its method; of the methods beside it the hidden one goes. -/
theorem redact?_edited_nestedSample :
    nestedSample.WellFormed ∧
      Edited 0 nestedSample.text.toList (nestedSample.edits .standard (.ofLists ["B"] ["G"]))
        ("class Ä\x7b\n\tclass B\x7b\n\t    /* whole class collapsed */\n\t\x7d\n" ++
          "\tint G()\x7b /* logic hidden */ \x7dvoid F()\x7bx\x7d\x7d;").toList := by
  have hwell : nestedSample.WellFormed := by decide
  refine ⟨hwell, ((hwell.redact?_edited .standard (.ofLists ["B"] ["G"])).2.1 _).mpr ?_⟩
  decide +kernel

end RedactedBundle
