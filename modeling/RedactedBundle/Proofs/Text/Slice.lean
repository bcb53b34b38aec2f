import RedactedBundle.Text.Slice

/-!
# Cutting text at byte positions

When cutting a text succeeds, and what it gives. A position at which a text can be cut splits it
in one way only, so a slice is the middle of a split of the text into three parts, and slices that
meet can be joined.

## Main statements

- `dropBytes?_eq_some_iff`, `takeBytes?_eq_some_iff`, `slice?_eq_some_iff`: what a cut gives
- `exists_slice?`: a span between two boundaries can be cut out
- `slice?_trans`: slices that meet join to a slice
-/

namespace RedactedBundle

namespace Text

/-- Two splits of a text at the same number of bytes are the same split. -/
theorem append_inj_of_byteLength {xs ys xs' ys' : List Char} (h : xs ++ ys = xs' ++ ys')
    (hlength : byteLength xs = byteLength xs') : xs = xs' ∧ ys = ys' := by
  have hxs : some xs = some xs' := by
    rw [← takeBytes?_append xs ys, h, hlength, takeBytes?_append]
  have hys : some ys = some ys' := by
    rw [← dropBytes?_append xs ys, h, hlength, dropBytes?_append]
  exact ⟨Option.some.inj hxs, Option.some.inj hys⟩

/-- Dropping bytes succeeds when they are the bytes of a leading part, and leaves the rest. -/
theorem dropBytes?_eq_some_iff {cs rest : List Char} {n : Nat} :
    dropBytes? cs n = some rest ↔ ∃ before, cs = before ++ rest ∧ byteLength before = n := by
  constructor
  · intro h
    fun_induction dropBytes? cs n with
    | case1 cs =>
      exact ⟨[], by simpa using h, rfl⟩
    | case2 => simp at h
    | case3 c cs n hle ih =>
      obtain ⟨before, rfl, hbefore⟩ := ih h
      refine ⟨c :: before, rfl, ?_⟩
      rw [byteLength_cons]
      omega
    | case4 => simp at h
  · rintro ⟨before, rfl, rfl⟩
    exact dropBytes?_append before rest

theorem takeBytesOnto?_eq_some {taken cs part : List Char} {n : Nat}
    (h : takeBytesOnto? taken cs n = some part) :
    ∃ front rest, part = taken.reverse ++ front ∧ cs = front ++ rest ∧ byteLength front = n := by
  fun_induction takeBytesOnto? taken cs n with
  | case1 taken cs =>
    exact ⟨[], cs, by simpa using h.symm, rfl, rfl⟩
  | case2 => simp at h
  | case3 taken c cs n hle ih =>
    obtain ⟨front, rest, rfl, rfl, hfront⟩ := ih h
    refine ⟨c :: front, rest, by simp, rfl, ?_⟩
    rw [byteLength_cons]
    omega
  | case4 => simp at h

/-- Taking bytes succeeds when they are the bytes of a leading part, and gives that part. -/
theorem takeBytes?_eq_some_iff {cs part : List Char} {n : Nat} :
    takeBytes? cs n = some part ↔ ∃ rest, cs = part ++ rest ∧ byteLength part = n := by
  constructor
  · intro h
    obtain ⟨front, rest, hpart, hcs, hlength⟩ := takeBytesOnto?_eq_some h
    have hfront : part = front := by simpa using hpart
    subst hfront
    exact ⟨rest, hcs, hlength⟩
  · rintro ⟨rest, rfl, rfl⟩
    exact takeBytes?_append part rest

/-- A slice is the middle of a split of the text whose first two parts reach to the ends of the
span. -/
theorem slice?_eq_some_iff {cs part : List Char} {span : Span} :
    slice? cs span = some part ↔
      ∃ before after, cs = before ++ (part ++ after) ∧ byteLength before = span.start ∧
        span.start + byteLength part = span.stop := by
  constructor
  · intro h
    rw [slice?] at h
    split at h
    · next hle =>
      obtain ⟨rest, hdrop, htake⟩ := Option.bind_eq_some_iff.mp h
      obtain ⟨before, rfl, hbefore⟩ := dropBytes?_eq_some_iff.mp hdrop
      obtain ⟨after, rfl, hpart⟩ := takeBytes?_eq_some_iff.mp htake
      exact ⟨before, after, rfl, hbefore, by omega⟩
    · simp at h
  · rintro ⟨before, after, rfl, hbefore, hpart⟩
    have hspan : span = ⟨byteLength before, byteLength before + byteLength part⟩ := by
      rw [hbefore, hpart]
    rw [hspan]
    exact slice?_append before part after

theorem byteLength_of_slice? {cs part : List Char} {span : Span}
    (h : slice? cs span = some part) : span.start + byteLength part = span.stop := by
  obtain ⟨_, _, _, _, hpart⟩ := slice?_eq_some_iff.mp h
  exact hpart

/-- Slices that meet at a position join to the slice over both spans. -/
theorem slice?_trans {cs xs ys : List Char} {a b c : Nat} (hx : slice? cs ⟨a, b⟩ = some xs)
    (hy : slice? cs ⟨b, c⟩ = some ys) : slice? cs ⟨a, c⟩ = some (xs ++ ys) := by
  obtain ⟨before, after, rfl, hbefore, hxs⟩ := slice?_eq_some_iff.mp hx
  obtain ⟨before', after', heq, hbefore', hys⟩ := slice?_eq_some_iff.mp hy
  simp only at hbefore hxs hbefore' hys
  -- Both slices split the text at `b`, so what stands behind the first begins with the second.
  have hsplit : (before ++ xs) ++ after = before' ++ (ys ++ after') := by
    rw [List.append_assoc, heq]
  have hlength : byteLength (before ++ xs) = byteLength before' := by
    rw [byteLength_append]
    omega
  obtain ⟨_, hafter⟩ := append_inj_of_byteLength hsplit hlength
  refine slice?_eq_some_iff.mpr ⟨before, after', ?_, hbefore, ?_⟩
  · rw [hafter]
    simp
  · rw [byteLength_append]
    simp only
    omega

/-- The whole text is its own slice from the first position to the last. -/
theorem slice?_self (cs : List Char) : slice? cs ⟨0, byteLength cs⟩ = some cs :=
  slice?_eq_some_iff.mpr ⟨[], [], by simp, rfl, by simp⟩

theorem isBoundary_zero (cs : List Char) : IsBoundary cs 0 := ⟨[], cs, rfl, rfl⟩

theorem isBoundary_byteLength (cs : List Char) : IsBoundary cs (byteLength cs) :=
  ⟨cs, [], by simp, rfl⟩

theorem isBoundary_iff_isSome {cs : List Char} {n : Nat} :
    IsBoundary cs n ↔ (dropBytes? cs n).isSome := by
  rw [Option.isSome_iff_exists]
  constructor
  · rintro ⟨before, after, rfl, rfl⟩
    exact ⟨after, dropBytes?_append before after⟩
  · rintro ⟨rest, h⟩
    obtain ⟨before, hcs, hbefore⟩ := dropBytes?_eq_some_iff.mp h
    exact ⟨before, rest, hcs, hbefore⟩

instance (cs : List Char) (n : Nat) : Decidable (IsBoundary cs n) :=
  decidable_of_iff _ isBoundary_iff_isSome.symm

theorem IsBoundary.le_byteLength {cs : List Char} {n : Nat} (h : IsBoundary cs n) :
    n ≤ byteLength cs := by
  obtain ⟨before, after, rfl, rfl⟩ := h
  rw [byteLength_append]
  omega

/-- The text in front of a boundary can be taken. -/
theorem IsBoundary.exists_takeBytes? {cs : List Char} {n : Nat} (h : IsBoundary cs n) :
    ∃ before, takeBytes? cs n = some before := by
  obtain ⟨before, after, rfl, rfl⟩ := h
  exact ⟨before, takeBytes?_append before after⟩

/-- Two boundaries in order are the ends of a slice. -/
theorem exists_slice? {cs : List Char} {a b : Nat} (ha : IsBoundary cs a)
    (hb : IsBoundary cs b) (hle : a ≤ b) : ∃ part, slice? cs ⟨a, b⟩ = some part := by
  obtain ⟨before, rest, hcs, hbefore⟩ := ha
  obtain ⟨longer, after, hcs', hlonger⟩ := hb
  have hpre : before <+: cs := ⟨rest, hcs.symm⟩
  have hpre' : longer <+: cs := ⟨after, hcs'.symm⟩
  rcases List.prefix_or_prefix_of_prefix hpre hpre' with ⟨part, hpart⟩ | ⟨part, hpart⟩
  · refine ⟨part, slice?_eq_some_iff.mpr ⟨before, after, ?_, hbefore, ?_⟩⟩
    · rw [hcs', ← hpart, List.append_assoc]
    · have hlength : byteLength longer = byteLength before + byteLength part := by
        rw [← hpart, byteLength_append]
      simp only
      omega
  · -- The later boundary comes with the shorter prefix, so the two positions are the same.
    have hlength : byteLength before = byteLength longer + byteLength part := by
      rw [← hpart, byteLength_append]
    refine ⟨[], slice?_eq_some_iff.mpr ⟨before, rest, by simpa using hcs, hbefore, ?_⟩⟩
    simp only [byteLength_nil]
    omega

end Text

end RedactedBundle
