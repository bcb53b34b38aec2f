import Mathlib.Data.String.Basic
import RedactedBundle.Proofs.Text.Utf8

/-!
# The order of texts by their bytes

Texts compare as their bytes do. A greater character has a greater first byte, or as long a form, in
which the first byte that differs is greater.

## Main statements

- `Utf8.le_iff_encode_le`: the order of texts is that of their bytes
-/

namespace RedactedBundle.Utf8

section Bytes

variable {v w m n : Nat} {xs ys : List UInt8}

/-- Bytes compare by the first one that differs. -/
theorem ofNat_cons_lt (hm : m < 256) (hn : n < 256) (h : m < n ∨ m = n ∧ xs < ys) :
    UInt8.ofNat m :: xs < UInt8.ofNat n :: ys := by
  rw [List.cons_lt_cons_iff, UInt8.lt_iff_toNat_lt, UInt8.toNat_ofNat_of_lt' hm,
    UInt8.toNat_ofNat_of_lt' hn]
  exact h.imp_right fun ⟨heq, hlt⟩ => ⟨congrArg _ heq, hlt⟩

theorem lt_of_last_byte (hbefore : v / 64 = w / 64) (h : v < w) :
    UInt8.ofNat (v % 64 + 128) :: xs < UInt8.ofNat (w % 64 + 128) :: ys :=
  ofNat_cons_lt (by omega) (by omega) (.inl (by omega))

theorem lt_of_last_two_bytes (hbefore : v / 4096 = w / 4096) (h : v < w) :
    UInt8.ofNat (v / 64 % 64 + 128) :: UInt8.ofNat (v % 64 + 128) :: xs <
      UInt8.ofNat (w / 64 % 64 + 128) :: UInt8.ofNat (w % 64 + 128) :: ys := by
  refine ofNat_cons_lt (by omega) (by omega) ?_
  by_cases hbits : v / 64 = w / 64
  · exact .inr ⟨by omega, lt_of_last_byte hbits h⟩
  · exact .inl (by omega)

theorem lt_of_last_three_bytes (hbefore : v / 262144 = w / 262144) (h : v < w) :
    UInt8.ofNat (v / 4096 % 64 + 128) :: UInt8.ofNat (v / 64 % 64 + 128) ::
        UInt8.ofNat (v % 64 + 128) :: xs <
      UInt8.ofNat (w / 4096 % 64 + 128) :: UInt8.ofNat (w / 64 % 64 + 128) ::
        UInt8.ofNat (w % 64 + 128) :: ys := by
  refine ofNat_cons_lt (by omega) (by omega) ?_
  by_cases hbits : v / 4096 = w / 4096
  · exact .inr ⟨by omega, lt_of_last_two_bytes hbits h⟩
  · exact .inl (by omega)

end Bytes

/-- A greater character has greater bytes, whatever follows. -/
theorem encodeChar_append_lt {c d : Char} (h : c < d) (xs ys : List UInt8) :
    String.utf8EncodeChar c ++ xs < String.utf8EncodeChar d ++ ys := by
  have hvalue : c.val.toNat < d.val.toNat := h
  have hvalid : d.val.toNat < 0xd800 ∨ 0xdfff < d.val.toNat ∧ d.val.toNat < 0x110000 := d.valid
  rw [String.utf8EncodeChar, String.utf8EncodeChar]
  generalize c.val.toNat = v at hvalue
  generalize d.val.toNat = w at hvalue hvalid
  -- A longer form begins with a greater byte, so only forms of one length are left to compare.
  split
  · split
    · exact ofNat_cons_lt (by omega) (by omega) (.inl hvalue)
    split
    · exact ofNat_cons_lt (by omega) (by omega) (.inl (by omega))
    split <;> exact ofNat_cons_lt (by omega) (by omega) (.inl (by omega))
  split
  · rw [if_neg (by omega)]
    split
    · refine ofNat_cons_lt (by omega) (by omega) ?_
      by_cases hbits : v / 64 = w / 64
      · exact .inr ⟨by omega, lt_of_last_byte hbits hvalue⟩
      · exact .inl (by omega)
    split <;> exact ofNat_cons_lt (by omega) (by omega) (.inl (by omega))
  rw [if_neg (show ¬ w ≤ 0x7f by omega), if_neg (show ¬ w ≤ 0x7ff by omega)]
  split
  · split
    · refine ofNat_cons_lt (by omega) (by omega) ?_
      by_cases hbits : v / 4096 = w / 4096
      · exact .inr ⟨by omega, lt_of_last_two_bytes hbits hvalue⟩
      · exact .inl (by omega)
    · exact ofNat_cons_lt (by omega) (by omega) (.inl (by omega))
  · rw [if_neg (by omega)]
    refine ofNat_cons_lt (by omega) (by omega) ?_
    by_cases hbits : v / 262144 = w / 262144
    · exact .inr ⟨by omega, lt_of_last_three_bytes hbits hvalue⟩
    · exact .inl (by omega)

theorem encode_lt_encode {xs ys : List Char} (h : xs < ys) : encode xs < encode ys := by
  induction h with
  | @nil c rest =>
    have hpos : 0 < (String.utf8EncodeChar c).length :=
      String.length_utf8EncodeChar c ▸ c.utf8Size_pos
    obtain ⟨b, more, hbytes⟩ := List.exists_cons_of_length_pos hpos
    rw [encode, encode, List.flatMap_cons, hbytes]
    exact List.nil_lt_cons _ _
  | rel h => exact encodeChar_append_lt h _ _
  | cons _ ih => exact List.append_left_lt ih

theorem encode_lt_encode_iff {xs ys : List Char} : encode xs < encode ys ↔ xs < ys := by
  refine ⟨fun h => ?_, encode_lt_encode⟩
  by_cases hreverse : ys < xs
  · exact absurd h (List.lt_asymm (encode_lt_encode hreverse))
  · refine Decidable.of_not_not fun hnot => List.lt_irrefl (encode ys) ?_
    rwa [List.le_antisymm (List.not_lt.mp hreverse) (List.not_lt.mp hnot)] at h

/-- The order of texts is that of their bytes. -/
theorem le_iff_encode_le {a b : String} : a ≤ b ↔ encode a.toList ≤ encode b.toList := by
  rw [← String.not_lt, String.lt_iff_toList_lt, ← encode_lt_encode_iff, List.not_lt]

end RedactedBundle.Utf8
