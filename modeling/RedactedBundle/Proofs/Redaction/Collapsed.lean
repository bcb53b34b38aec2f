import RedactedBundle.Proofs.Redaction.EditScript
import RedactedBundle.Proofs.Redaction.Methods

/-!
# Collapsed classes

A class that is hidden, and stands in no other hidden class, is shown as its own text up to the
inside, one comment, and its own text from the inside on. The comment is as far from the margin as
the closing brace, if only spaces and tabs stand in front of that brace on its line, and begins at
the margin otherwise.

## Main definitions

- `CollapsedClass`: a class that is shown as a comment
- `CollapsedClass.ShownWith`: the text shown has an indented comment in the place of a class
- `Text.lineBetween`, `Text.leadingBlanks`: a line, and the spaces and tabs it begins with

## Main statements

- `exists_pieces_of_declAt?`: the layout of a declaration is a part of that of the source
- `CollapsedClass.shownWith_indentAt`: how a collapsed class is shown
-/

namespace RedactedBundle

namespace Text

/-- The spaces and tabs that a line begins with. -/
def leadingBlanks (line : List Char) : List Char := line.takeWhile isBlank

/-- The line around the position between two parts of a text, without its end. -/
def lineBetween (before after : List Char) : List Char :=
  lastLine before ++ after.takeWhile (· ≠ '\n')

/-- The blanks in front of something that is not blank are those that its line begins with. -/
theorem leadingBlanks_lineBetween {before : List Char} (h : (lastLine before).all isBlank = true)
    {c : Char} (hc : isBlank c = false) (rest : List Char) :
    leadingBlanks (lineBetween before (c :: rest)) = lastLine before := by
  have hblank : ∀ d ∈ lastLine before, isBlank d = true := List.all_eq_true.mp h
  have hstop : (List.takeWhile (· ≠ '\n') (c :: rest)).takeWhile isBlank = [] := by
    by_cases hfeed : c = '\n' <;> simp [hfeed, hc]
  rw [leadingBlanks, lineBetween, List.takeWhile_append_of_pos hblank, hstop, List.append_nil]

end Text

/-- A class that is hidden and stands in no hidden class. -/
structure CollapsedClass (source : Source) (hidden : Hidden) where
  place : Address
  name : String
  kind : ClassKind
  span : Span
  inner : Span
  members : List Decl
  at_place : declAt? source.decls place = some (.fullClass name kind span inner members)
  is_hidden : name ∈ hidden.classes
  is_visible : ∀ outer ∈ declsAround source.decls place, ¬ outer.IsCollapsed hidden.classes

variable {source : Source} {hidden : Hidden} {placeholders : Placeholders} {text : List Char}
  {decls : List Decl} {decl : Decl}

/-- In the text shown stand, one behind the other, the text of the class up to its inside, a comment
with the indentation, and the text of the class from the inside on. In front of them and behind them
stands what the declarations around the class are laid out as. -/
def CollapsedClass.ShownWith (c : CollapsedClass source hidden) (placeholders : Placeholders)
    (indent : List Char) : Prop :=
  ∃ xs ys front header footer back,
    source.pieces hidden = xs ++ ([.source ⟨c.span.start, c.inner.start⟩, .collapsed c.inner.stop,
      .source ⟨c.inner.stop, c.span.stop⟩] ++ ys) ∧
    joinPieces? placeholders source.text.toList xs = some front ∧
    Text.slice? source.text.toList ⟨c.span.start, c.inner.start⟩ = some header ∧
    Text.slice? source.text.toList ⟨c.inner.stop, c.span.stop⟩ = some footer ∧
    joinPieces? placeholders source.text.toList ys = some back ∧
    source.redact? placeholders hidden =
      some (.ofList (front ++ (header ++ (placeholders.inClass indent ++ footer) ++ back)))

/-! ## The layout of a part -/

/-- The layout of a declaration is a part of that of the range it stands in. -/
theorem exists_pieces_of_mem (hmem : decl ∈ decls) (stop start : Nat) :
    ∃ xs ys, piecesFrom hidden stop start decls = xs ++ (decl.pieces hidden ++ ys) := by
  induction decls generalizing start with
  | nil => cases hmem
  | cons other rest ih =>
    rw [piecesFrom]
    rcases List.mem_cons.mp hmem with rfl | hmem
    · exact ⟨[.source ⟨start, decl.span.start⟩], _, rfl⟩
    · obtain ⟨xs, ys, hrest⟩ := ih hmem other.span.stop
      refine ⟨.source ⟨start, other.span.start⟩ :: (other.pieces hidden ++ xs), ys, ?_⟩
      rw [hrest, List.cons_append, List.append_assoc]

/-- So is that of a declaration in other ones, if none of these is collapsed. -/
theorem exists_pieces_of_declAt? {place : Address} (hplace : declAt? decls place = some decl)
    (hvisible : ∀ outer ∈ declsAround decls place, ¬ outer.IsCollapsed hidden.classes)
    (stop start : Nat) :
    ∃ xs ys, piecesFrom hidden stop start decls = xs ++ (decl.pieces hidden ++ ys) := by
  induction place generalizing decls stop start with
  | nil => cases hplace
  | cons i rest ih =>
    obtain ⟨top, htop, hrest⟩ := Option.bind_eq_some_iff.mp hplace
    obtain ⟨xs, ys, hpieces⟩ := exists_pieces_of_mem (List.mem_of_getElem? htop) stop start
    cases rest with
    | nil =>
      obtain rfl := Option.some.inj hrest
      exact ⟨xs, ys, hpieces⟩
    | cons j others =>
      rw [declsAround_cons htop (List.cons_ne_nil j others)] at hvisible
      cases top with
      | bareClass => cases hrest
      | method => cases hrest
      | fullClass name kind span inner members =>
        -- The class is not collapsed, so its members are laid out within its span.
        have hname : name ∉ hidden.classes := hvisible _ List.mem_cons_self
        obtain ⟨xs', ys', hmembers⟩ := ih hrest
          (fun outer hmem => hvisible outer (List.mem_cons_of_mem _ hmem)) span.stop span.start
        rw [Decl.members] at hmembers
        refine ⟨xs ++ xs', ys' ++ ys, ?_⟩
        rw [hpieces, Decl.pieces, if_neg hname, hmembers]
        simp only [List.append_assoc]

/-- The text of some pieces in a row is that of the first ones with that of the others behind it. -/
theorem exists_of_joinPieces?_append {xs ys : List Piece} {out : List Char}
    (h : joinPieces? placeholders text (xs ++ ys) = some out) :
    ∃ front back, joinPieces? placeholders text xs = some front ∧
      joinPieces? placeholders text ys = some back ∧ out = front ++ back := by
  rw [joinPieces?_append] at h
  obtain ⟨front, hfront, h⟩ := Option.bind_eq_some_iff.mp h
  obtain ⟨back, hback, rfl⟩ := Option.map_eq_some_iff.mp h
  exact ⟨front, back, hfront, hback, rfl⟩

theorem exists_of_joinPieces?_cons {piece : Piece} {rest : List Piece} {out : List Char}
    (h : joinPieces? placeholders text (piece :: rest) = some out) :
    ∃ head tail, piece.text? placeholders text = some head ∧
      joinPieces? placeholders text rest = some tail ∧ out = head ++ tail := by
  obtain ⟨head, hhead, h⟩ := Option.bind_eq_some_iff.mp h
  obtain ⟨tail, htail, rfl⟩ := Option.map_eq_some_iff.mp h
  exact ⟨head, tail, hhead, htail, rfl⟩

theorem joinPieces?_singleton (piece : Piece) :
    joinPieces? placeholders text [piece] = piece.text? placeholders text := by
  simp [joinPieces?]

theorem eq_of_text?_collapsed {brace : Nat} {out : List Char}
    (h : (Piece.collapsed brace).text? placeholders text = some out) :
    out = placeholders.inClass (Text.indentAt text brace) := by
  obtain ⟨before, hbefore, rfl⟩ := Option.map_eq_some_iff.mp h
  simp [Placeholders.inClass, Text.indentAt, hbefore]

/-! ## The class -/

namespace CollapsedClass

variable (c : CollapsedClass source hidden)

/-- A collapsed class is shown with a comment in the place of its inside. -/
theorem shownWith_indentAt (h : source.WellFormed) (placeholders : Placeholders) :
    c.ShownWith placeholders (Text.indentAt source.text.toList c.inner.stop) := by
  obtain ⟨xs, ys, hpieces⟩ := exists_pieces_of_declAt? c.at_place c.is_visible
    (Text.byteLength source.text.toList) 0
  rw [Decl.pieces, if_pos c.is_hidden] at hpieces
  have hredact := h.redact?_eq_some_redact placeholders hidden
  obtain ⟨out, hout, -⟩ := Option.map_eq_some_iff.mp hredact
  rw [Source.pieces, hpieces] at hout
  obtain ⟨front, rest, hfront, hrest, rfl⟩ := exists_of_joinPieces?_append hout
  obtain ⟨own, back, hown, hback, rfl⟩ := exists_of_joinPieces?_append hrest
  -- The three pieces of the class, one after the other.
  obtain ⟨header, inside, hheader, hinside, rfl⟩ := exists_of_joinPieces?_cons hown
  obtain ⟨comment, footer, hcomment, hfooter, rfl⟩ := exists_of_joinPieces?_cons hinside
  rw [joinPieces?_singleton] at hfooter
  obtain rfl := eq_of_text?_collapsed hcomment
  refine ⟨xs, ys, front, header, footer, back, hpieces, hfront, hheader, hfooter, hback, ?_⟩
  rw [Source.redact?, Source.pieces, hpieces, hout]
  rfl

/-- A collapsed class gives way to a comment. Where its closing brace is, the comment is indented by
the spaces and tabs that the line of the brace begins with if nothing else stands in front of the
brace on that line, and not at all otherwise. -/
theorem shownWith_leadingBlanks (h : source.WellFormed) (placeholders : Placeholders) :
    c.ShownWith placeholders (Text.indentAt source.text.toList c.inner.stop) ∧
    ∀ before rest, source.text.toList = before ++ '\x7d' :: rest →
      Text.byteLength before = c.inner.stop →
      Text.indentAt source.text.toList c.inner.stop =
        if (Text.lastLine before).all Text.isBlank then
          Text.leadingBlanks (Text.lineBetween before ('\x7d' :: rest))
        else [] := by
  refine ⟨c.shownWith_indentAt h placeholders, fun before rest htext hbefore => ?_⟩
  have htake : Text.takeBytes? source.text.toList c.inner.stop = some before :=
    Text.takeBytes?_eq_some_iff.mpr ⟨'\x7d' :: rest, htext, hbefore⟩
  rw [Text.indentAt, htake, Option.map_some, Option.getD_some, Text.lineIndent]
  by_cases hblank : (Text.lastLine before).all Text.isBlank = true
  · rw [if_pos hblank, if_pos hblank, Text.leadingBlanks_lineBetween hblank rfl]
  · rw [if_neg hblank, if_neg hblank]

end CollapsedClass

/-- The inner class, whose closing brace stands alone behind a tab. -/
def collapsedInner : CollapsedClass nestedSample (.ofLists ["B"] ["G"]) where
  place := [0, 0]
  name := "B"
  kind := .plain
  span := ⟨11, 33⟩
  inner := ⟨19, 32⟩
  members := [.method ⟨"G", "int", ⟨19, 30⟩, some ⟨⟨26, 30⟩, .expression⟩⟩]
  at_place := rfl
  is_hidden := by decide
  is_visible := by decide

theorem shownWith_leadingBlanks_nestedSample :
    nestedSample.WellFormed ∧ collapsedInner.ShownWith .standard ['\t'] ∧
      ∃ before rest, nestedSample.text.toList = before ++ '\x7d' :: rest ∧
        Text.byteLength before = collapsedInner.inner.stop ∧
        Text.leadingBlanks (Text.lineBetween before ('\x7d' :: rest)) = ['\t'] := by
  have hwell : nestedSample.WellFormed := by decide
  obtain ⟨hshown, hindent⟩ := collapsedInner.shownWith_leadingBlanks hwell .standard
  have htext : nestedSample.text.toList = "class Ä\x7b\n\tclass B\x7bint G()=>1;\n\t".toList ++
      '\x7d' :: "\n\tint G()=>1;void F()\x7bx\x7d\x7d;".toList := by decide
  have hindent := hindent _ _ htext (by decide)
  rw [hindent] at hshown
  exact ⟨hwell, hshown, _, _, htext, by decide, by decide⟩

/-- A class that stands on one line, behind two spaces. -/
def oneLineSample : Source :=
  ⟨"  class A \x7b \x7d", [.fullClass "A" .plain ⟨2, 13⟩ ⟨11, 12⟩ []]⟩

def collapsedLine : CollapsedClass oneLineSample (.ofLists ["A"] []) where
  place := [0]
  name := "A"
  kind := .plain
  span := ⟨2, 13⟩
  inner := ⟨11, 12⟩
  members := []
  at_place := rfl
  is_hidden := by decide
  is_visible := by decide

theorem CollapsedClass.ShownWith.comment_occurs {c : CollapsedClass source hidden}
    {indent out : List Char} (h : c.ShownWith placeholders indent)
    (hout : source.redact? placeholders hidden = some (.ofList out)) :
    placeholders.inClass indent <:+: out := by
  obtain ⟨_, _, front, header, footer, back, _, _, _, _, _, hshown⟩ := h
  have heq : out = front ++ (header ++ (placeholders.inClass indent ++ footer) ++ back) := by
    rw [hout] at hshown
    exact String.ofList_injective (Option.some.inj hshown)
  refine ⟨front ++ header, footer ++ back, ?_⟩
  rw [heq]
  simp only [List.append_assoc]

/-- So the comment is not always indented as the line of the closing brace is: behind something else
on that line the brace and the comment begin at the margin. -/
theorem not_forall_shownWith_leadingBlanks :
    (¬ ∀ (source : Source) (hidden : Hidden) (c : CollapsedClass source hidden)
        (before rest : List Char),
      source.WellFormed → source.text.toList = before ++ '\x7d' :: rest →
        Text.byteLength before = c.inner.stop →
        c.ShownWith .standard (Text.leadingBlanks (Text.lineBetween before ('\x7d' :: rest)))) ∧
    oneLineSample.redact? .standard (.ofLists ["A"] []) =
      some "  class A \x7b\n    /* whole class collapsed */\n\x7d" := by
  have hshown : oneLineSample.redact? .standard (.ofLists ["A"] []) =
      some (.ofList "  class A \x7b\n    /* whole class collapsed */\n\x7d".toList) := by
    decide +kernel
  refine ⟨fun hall => ?_, hshown⟩
  have hindented := hall oneLineSample (.ofLists ["A"] []) collapsedLine
    "  class A \x7b ".toList [] (by decide) (by decide) (by decide)
  exact absurd (hindented.comment_occurs hshown) (by decide)

end RedactedBundle
