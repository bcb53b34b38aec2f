import RedactedBundle.Text.Utf8

/-!
# Decoding what was encoded

The bytes of a text decode to the text, whichever way they are decoded. So a name is found again
among names read as text, and a slash in the bytes of a name is a slash in the name.

## Main statements

- `Utf8.decode?_encode`, `Utf8.decodeLossy_encode`: decoding reads back what was encoded
- `Utf8.encodeChar_cases`: which bytes belong to characters of ASCII
- `Utf8.slash_mem_encode`: no other character has the byte of a slash
-/

namespace RedactedBundle.Utf8

private theorem toNat_byte {n : Nat} (h : n < 256) : (UInt8.ofNat n).toNat = n :=
  UInt8.toNat_ofNat_of_lt h

/-! ## The first byte of a character -/

variable {v : Nat}

theorem beginning_one (h : v < 0x80) : beginning (UInt8.ofNat v) = .whole (Char.ofNat v) := by
  rw [beginning, toNat_byte (by omega), if_pos h]

theorem beginning_two (hlow : 0x80 ≤ v) (hhigh : v < 0x800) :
    beginning (UInt8.ofNat (v / 64 % 0x20 + 0xc0)) = .longer ⟨1, v / 64, 0x80, 0xBF⟩ := by
  have hbits : v / 64 % 0x20 = v / 64 := by omega
  rw [beginning, hbits, toNat_byte (by omega)]
  simp only [show ¬v / 64 + 0xc0 < 0x80 by omega, show ¬v / 64 + 0xc0 < 0xC2 by omega,
    show v / 64 + 0xc0 < 0xE0 by omega, if_false, if_true, Nat.add_sub_cancel]

theorem beginning_three (hhigh : v < 0x10000) :
    beginning (UInt8.ofNat (v / 4096 % 0x10 + 0xe0)) =
      .longer ⟨2, v / 4096, if v / 4096 = 0 then 0xA0 else 0x80,
        if v / 4096 = 13 then 0x9F else 0xBF⟩ := by
  have hbits : v / 4096 % 0x10 = v / 4096 := by omega
  rw [beginning, hbits, toNat_byte (by omega)]
  simp only [show ¬v / 4096 + 0xe0 < 0x80 by omega, show ¬v / 4096 + 0xe0 < 0xC2 by omega,
    show ¬v / 4096 + 0xe0 < 0xE0 by omega, show v / 4096 + 0xe0 < 0xF0 by omega, if_false, if_true,
    Nat.add_sub_cancel, show (v / 4096 + 0xe0 = 0xE0) = (v / 4096 = 0) by simp,
    show (v / 4096 + 0xe0 = 0xED) = (v / 4096 = 13) by simp]

theorem beginning_four (hhigh : v < 0x110000) :
    beginning (UInt8.ofNat (v / 262144 % 0x08 + 0xf0)) =
      .longer ⟨3, v / 262144, if v / 262144 = 0 then 0x90 else 0x80,
        if v / 262144 = 4 then 0x8F else 0xBF⟩ := by
  have hbits : v / 262144 % 0x08 = v / 262144 := by omega
  rw [beginning, hbits, toNat_byte (by omega)]
  simp only [show ¬v / 262144 + 0xf0 < 0x80 by omega, show ¬v / 262144 + 0xf0 < 0xC2 by omega,
    show ¬v / 262144 + 0xf0 < 0xE0 by omega, show ¬v / 262144 + 0xf0 < 0xF0 by omega,
    show v / 262144 + 0xf0 < 0xF5 by omega, if_false, if_true,
    Nat.add_sub_cancel, show (v / 262144 + 0xf0 = 0xF0) = (v / 262144 = 0) by simp,
    show (v / 262144 + 0xf0 = 0xF4) = (v / 262144 = 4) by simp]

/-! ## Whole characters -/

/-- The last byte of a character adds six bits to it and ends it. -/
theorem charsFrom_last {before low high bits : Nat} (hbits : bits < 64) (hlow : low ≤ bits + 0x80)
    (hhigh : bits + 0x80 ≤ high) (rest : List UInt8) :
    charsFrom (some ⟨1, before, low, high⟩) (UInt8.ofNat (bits + 0x80) :: rest) =
      some (Char.ofNat (before * 64 + bits)) :: charsFrom none rest := by
  rw [charsFrom, toNat_byte (by omega), Nat.add_sub_cancel]
  simp [hlow, hhigh]

/-- A byte before the last adds six bits, and leaves the next one its full range. -/
theorem charsFrom_inner {missing before low high bits : Nat} (hbits : bits < 64)
    (hlow : low ≤ bits + 0x80) (hhigh : bits + 0x80 ≤ high) (rest : List UInt8) :
    charsFrom (some ⟨missing + 2, before, low, high⟩) (UInt8.ofNat (bits + 0x80) :: rest) =
      charsFrom (some ⟨missing + 1, before * 64 + bits, 0x80, 0xBF⟩) rest := by
  rw [charsFrom, toNat_byte (by omega), Nat.add_sub_cancel]
  simp [hlow, hhigh]

theorem charsFrom_longer {byte : UInt8} {p : Pending} (h : beginning byte = .longer p)
    (rest : List UInt8) : charsFrom none (byte :: rest) = charsFrom (some p) rest := by
  rw [charsFrom, h]

/-- The bytes of a character decode to it. -/
theorem charsFrom_encodeChar (c : Char) (rest : List UInt8) :
    charsFrom none (String.utf8EncodeChar c ++ rest) = some c :: charsFrom none rest := by
  have hc : Char.ofNat c.val.toNat = c := Char.ofNat_toNat c
  have hvalid : c.val.toNat < 0xd800 ∨ 0xdfff < c.val.toNat ∧ c.val.toNat < 0x110000 := c.valid
  rw [String.utf8EncodeChar]
  generalize c.val.toNat = v at hc hvalid
  split
  · rw [List.singleton_append, charsFrom, beginning_one (by omega), hc]
  split
  · have hbits : v / 64 * 64 + v % 0x40 = v := by omega
    simp only [List.cons_append, List.nil_append]
    rw [charsFrom_longer (beginning_two (by omega) (by omega)),
      charsFrom_last (by omega) (by omega) (by omega), hbits, hc]
  -- The second byte of a longer character is in the range that its first byte leaves it.
  split
  · have hbits : (v / 4096 * 64 + v / 64 % 0x40) * 64 + v % 0x40 = v := by omega
    simp only [List.cons_append, List.nil_append]
    rw [charsFrom_longer (beginning_three (by omega)),
      charsFrom_inner (by omega) (by split <;> omega) (by split <;> omega),
      charsFrom_last (by omega) (by omega) (by omega), hbits, hc]
  · have hbits :
        ((v / 262144 * 64 + v / 4096 % 0x40) * 64 + v / 64 % 0x40) * 64 + v % 0x40 = v := by
      omega
    simp only [List.cons_append, List.nil_append]
    rw [charsFrom_longer (beginning_four (by omega)),
      charsFrom_inner (by omega) (by split <;> omega) (by split <;> omega),
      charsFrom_inner (by omega) (by omega) (by omega),
      charsFrom_last (by omega) (by omega) (by omega), hbits, hc]

/-! ## Texts -/

theorem chars_encode (cs : List Char) : chars (encode cs) = cs.map some := by
  rw [chars]
  induction cs with
  | nil => rfl
  | cons c rest ih =>
    rw [encode, List.flatMap_cons, charsFrom_encodeChar, List.map_cons]
    exact congrArg _ ih

theorem decode?_encode (cs : List Char) : decode? (encode cs) = some cs := by
  rw [decode?, chars_encode]
  induction cs with
  | nil => rfl
  | cons c rest ih => rw [List.map_cons, allSome, ih, Option.map_some]

theorem decodeLossy_encode (cs : List Char) : decodeLossy (encode cs) = cs := by
  rw [decodeLossy, chars_encode, List.map_map]
  exact List.map_id _

/-! ## Bytes of ASCII -/

/-- A character of ASCII is its one byte, and all bytes of any other are above those of ASCII. -/
theorem encodeChar_cases (c : Char) :
    c.toNat < 0x80 ∧ String.utf8EncodeChar c = [UInt8.ofNat c.toNat] ∨
      0x80 ≤ c.toNat ∧ ∀ b ∈ String.utf8EncodeChar c, 0x80 ≤ b.toNat := by
  have hvalid : c.toNat < 0xd800 ∨ 0xdfff < c.toNat ∧ c.toNat < 0x110000 := c.valid
  have hbyte {n : Nat} (hlow : 0x80 ≤ n) (hn : n < 256) : 0x80 ≤ (UInt8.ofNat n).toNat :=
    (toNat_byte hn).symm ▸ hlow
  rw [String.utf8EncodeChar, show c.val.toNat = c.toNat from rfl]
  generalize c.toNat = v at hvalid
  split
  · exact .inl ⟨by omega, rfl⟩
  refine .inr ⟨by omega, ?_⟩
  split
  · simp only [List.forall_mem_cons, List.not_mem_nil, false_implies, implies_true, and_true]
    exact ⟨hbyte (by omega) (by omega), hbyte (by omega) (by omega)⟩
  split <;>
    simp only [List.forall_mem_cons, List.not_mem_nil, false_implies, implies_true, and_true]
  · exact ⟨hbyte (by omega) (by omega), hbyte (by omega) (by omega), hbyte (by omega) (by omega)⟩
  · exact ⟨hbyte (by omega) (by omega), hbyte (by omega) (by omega), hbyte (by omega) (by omega),
      hbyte (by omega) (by omega)⟩

/-- A slash among the bytes of a text is one in the text. -/
theorem slash_mem_encode {cs : List Char} (h : 0x2F ∈ encode cs) : '/' ∈ cs := by
  obtain ⟨c, hmem, hbyte⟩ := List.mem_flatMap.mp h
  rcases encodeChar_cases c with ⟨hascii, hone⟩ | ⟨-, hhigh⟩
  · have hvalue := congrArg UInt8.toNat (List.mem_singleton.mp (hone ▸ hbyte))
    rw [toNat_byte (by omega)] at hvalue
    have hc : c = '/' := (Char.ofNat_toNat c).symm.trans (congrArg Char.ofNat hvalue.symm)
    exact hc ▸ hmem
  · exact absurd (hhigh 0x2F hbyte) (by decide)

end RedactedBundle.Utf8
