import Mathlib.Data.List.Basic
import RedactedBundle.Proofs.Text.Utf8

/-!
# What bytes are read as

Any bytes split into whole characters and broken ones, where a broken one takes in as many bytes
as could begin a character, or one byte that begins none. There is one such split, and it is what
decoding goes by. A broken character holds no byte of ASCII, so decoding keeps those bytes, in
order, and makes up no others.

## Main definitions

- `BeginsChar`: some character starts with the bytes
- `Broken`: bytes at the front of others that are read as one broken character
- `Decodes`: the split of bytes into characters and broken ones
- `Completes`: bytes that end the character that is pending
- `ReadAs`: bytes that leave a character pending

## Main statements

- `decodes_iff`: the split that decoding goes by is the only one
- `decode?_eq_some_iff`: the bytes that are valid throughout
- `filter_ascii_decodeLossy`: the ASCII characters of a decoded text
-/

namespace RedactedBundle.Utf8

/-! ## Characters from their bytes -/

section Bytes

variable {b₀ b₁ b₂ b₃ : UInt8}

private theorem val_ofNat {v : Nat} (h : v.isValidChar) : (Char.ofNat v).val.toNat = v := by
  rw [Char.ofNat, dif_pos h]
  rfl

private theorem ofNat_eq {n : Nat} {b : UInt8} (h : n = b.toNat) : UInt8.ofNat n = b := by
  rw [h, UInt8.ofNat_toNat]

theorem encodeChar_one (h : b₀.toNat < 0x80) :
    String.utf8EncodeChar (Char.ofNat b₀.toNat) = [b₀] := by
  rw [String.utf8EncodeChar, val_ofNat (.inl (by omega))]
  simp only [show b₀.toNat ≤ 0x7f by omega, if_true, UInt8.ofNat_toNat]

theorem encodeChar_two (h₀ : 0xC2 ≤ b₀.toNat ∧ b₀.toNat < 0xE0)
    (h₁ : 0x80 ≤ b₁.toNat ∧ b₁.toNat ≤ 0xBF) :
    ∃ c : Char, String.utf8EncodeChar c = [b₀, b₁] := by
  obtain ⟨v, hv⟩ : ∃ v, v = (b₀.toNat - 0xC0) * 64 + (b₁.toNat - 0x80) := ⟨_, rfl⟩
  refine ⟨Char.ofNat v, ?_⟩
  rw [String.utf8EncodeChar, val_ofNat (.inl (by omega))]
  simp only [show ¬ v ≤ 0x7f by omega, show v ≤ 0x7ff by omega, if_false, if_true,
    ofNat_eq (show v / 64 % 32 + 192 = b₀.toNat by omega),
    ofNat_eq (show v % 64 + 128 = b₁.toNat by omega)]

/-- The range of the second byte leaves out what is written shorter, and the surrogates. -/
theorem encodeChar_three (h₀ : 0xE0 ≤ b₀.toNat ∧ b₀.toNat < 0xF0)
    (h₁ : (if b₀.toNat = 0xE0 then 0xA0 else 0x80) ≤ b₁.toNat ∧
      b₁.toNat ≤ if b₀.toNat = 0xED then 0x9F else 0xBF)
    (h₂ : 0x80 ≤ b₂.toNat ∧ b₂.toNat ≤ 0xBF) :
    ∃ c : Char, String.utf8EncodeChar c = [b₀, b₁, b₂] := by
  obtain ⟨v, hv⟩ : ∃ v, v = ((b₀.toNat - 0xE0) * 64 + (b₁.toNat - 0x80)) * 64 +
      (b₂.toNat - 0x80) := ⟨_, rfl⟩
  have hsecond : 0x80 ≤ b₁.toNat ∧ b₁.toNat ≤ 0xBF ∧ (b₀.toNat = 0xE0 → 0xA0 ≤ b₁.toNat) ∧
      (b₀.toNat = 0xED → b₁.toNat ≤ 0x9F) := by
    split at h₁ <;> split at h₁ <;> omega
  have hvalid : v < 0xd800 ∨ 0xdfff < v ∧ v < 0x110000 := by omega
  refine ⟨Char.ofNat v, ?_⟩
  rw [String.utf8EncodeChar, val_ofNat hvalid]
  simp only [show ¬ v ≤ 0x7f by omega, show ¬ v ≤ 0x7ff by omega, show v ≤ 0xffff by omega,
    if_false, if_true, ofNat_eq (show v / 4096 % 16 + 224 = b₀.toNat by omega),
    ofNat_eq (show v / 64 % 64 + 128 = b₁.toNat by omega),
    ofNat_eq (show v % 64 + 128 = b₂.toNat by omega)]

/-- The range of the second byte leaves out what is written shorter, and what is no character. -/
theorem encodeChar_four (h₀ : 0xF0 ≤ b₀.toNat ∧ b₀.toNat < 0xF5)
    (h₁ : (if b₀.toNat = 0xF0 then 0x90 else 0x80) ≤ b₁.toNat ∧
      b₁.toNat ≤ if b₀.toNat = 0xF4 then 0x8F else 0xBF)
    (h₂ : 0x80 ≤ b₂.toNat ∧ b₂.toNat ≤ 0xBF) (h₃ : 0x80 ≤ b₃.toNat ∧ b₃.toNat ≤ 0xBF) :
    ∃ c : Char, String.utf8EncodeChar c = [b₀, b₁, b₂, b₃] := by
  obtain ⟨v, hv⟩ : ∃ v, v = (((b₀.toNat - 0xF0) * 64 + (b₁.toNat - 0x80)) * 64 +
      (b₂.toNat - 0x80)) * 64 + (b₃.toNat - 0x80) := ⟨_, rfl⟩
  have hsecond : 0x80 ≤ b₁.toNat ∧ b₁.toNat ≤ 0xBF ∧ (b₀.toNat = 0xF0 → 0x90 ≤ b₁.toNat) ∧
      (b₀.toNat = 0xF4 → b₁.toNat ≤ 0x8F) := by
    split at h₁ <;> split at h₁ <;> omega
  have hvalid : v < 0xd800 ∨ 0xdfff < v ∧ v < 0x110000 := by omega
  refine ⟨Char.ofNat v, ?_⟩
  rw [String.utf8EncodeChar, val_ofNat hvalid]
  simp only [show ¬ v ≤ 0x7f by omega, show ¬ v ≤ 0x7ff by omega, show ¬ v ≤ 0xffff by omega,
    if_false, ofNat_eq (show v / 262144 % 8 + 240 = b₀.toNat by omega),
    ofNat_eq (show v / 4096 % 64 + 128 = b₁.toNat by omega),
    ofNat_eq (show v / 64 % 64 + 128 = b₂.toNat by omega),
    ofNat_eq (show v % 64 + 128 = b₃.toNat by omega)]

end Bytes

/-! ## Pending characters -/

/-- Bytes that end the character that is pending. -/
structure Completes (p : Pending) (fill : List UInt8) : Prop where
  length_eq : fill.length = p.missing
  first_mem : ∀ b ∈ fill.head?, p.low ≤ b.toNat ∧ b.toNat ≤ p.high
  later_mem : ∀ b ∈ fill.tail, 0x80 ≤ b.toNat ∧ b.toNat ≤ 0xBF

/-- Bytes that leave a character pending: whatever completes it makes a character of them. -/
structure ReadAs (read : List UInt8) (p : Pending) : Prop where
  charsFrom_append : ∀ tail, charsFrom none (read ++ tail) = charsFrom (some p) tail
  exists_char : ∀ fill, Completes p fill → ∃ c : Char, String.utf8EncodeChar c = read ++ fill
  exists_fill : ∃ fill, Completes p fill
  missing_pos : 0 < p.missing

/-- What is pending behind a further byte. -/
def Pending.next (p : Pending) (b : UInt8) : Pending :=
  ⟨p.missing - 1, p.bits * 64 + (b.toNat - 0x80), 0x80, 0xBF⟩

section Pending

variable {read rest : List UInt8} {p : Pending} {b : UInt8}

/-- A byte that a longer character starts with leaves the rest of it pending. -/
theorem ReadAs.of_beginning (h : beginning b = .longer p) : ReadAs [b] p := by
  have htail : ∀ tail, charsFrom none ([b] ++ tail) = charsFrom (some p) tail :=
    charsFrom_longer h
  rw [beginning] at h
  split at h
  · cases h
  split at h
  · cases h
  split at h
  · cases h
    refine ⟨htail, fun fill hfill => ?_, ⟨[0x80], rfl, by simp, by simp⟩, Nat.one_pos⟩
    obtain ⟨b₁, rfl⟩ := List.length_eq_one_iff.mp hfill.length_eq
    exact encodeChar_two ⟨by omega, by omega⟩ (hfill.first_mem b₁ rfl)
  split at h
  · cases h
    refine ⟨htail, fun fill hfill => ?_, ?_, Nat.two_pos⟩
    · obtain ⟨b₁, b₂, rfl⟩ := List.length_eq_two.mp hfill.length_eq
      exact encodeChar_three ⟨by omega, by omega⟩ (hfill.first_mem b₁ rfl)
        (hfill.later_mem b₂ (by simp))
    · by_cases hlow : b.toNat = 0xE0
      · exact ⟨[0xA0, 0x80], rfl, by simp [hlow], by simp⟩
      · have hhigh : 0x80 ≤ if b.toNat = 0xED then 0x9F else 0xBF := by split <;> decide
        exact ⟨[0x80, 0x80], rfl, by simpa [hlow] using hhigh, by simp⟩
  split at h
  · cases h
    refine ⟨htail, fun fill hfill => ?_, ?_, Nat.succ_pos 2⟩
    · obtain ⟨b₁, b₂, b₃, rfl⟩ := List.length_eq_three.mp hfill.length_eq
      exact encodeChar_four ⟨by omega, by omega⟩ (hfill.first_mem b₁ rfl)
        (hfill.later_mem b₂ (by simp)) (hfill.later_mem b₃ (by simp))
    · by_cases hlow : b.toNat = 0xF0
      · exact ⟨[0x90, 0x80, 0x80], rfl, by simp [hlow], by simp⟩
      · have hhigh : 0x80 ≤ if b.toNat = 0xF4 then 0x8F else 0xBF := by split <;> decide
        exact ⟨[0x80, 0x80, 0x80], rfl, by simpa [hlow] using hhigh, by simp⟩
  · cases h

theorem ascii_of_beginning_eq_whole {c : Char} (h : beginning b = .whole c) : b.toNat < 0x80 := by
  refine Nat.lt_of_not_le fun hhigh => ?_
  rw [beginning, if_neg (Nat.not_lt.mpr hhigh)] at h
  split at h
  · cases h
  split at h
  · cases h
  split at h
  · cases h
  split at h <;> cases h

theorem charsFrom_of_out_of_range (h : ¬ (p.low ≤ b.toNat ∧ b.toNat ≤ p.high)) :
    charsFrom (some p) (b :: rest) = none :: charsFrom none (b :: rest) := by
  rw [charsFrom, charsFrom, if_neg (by simpa using h)]

theorem charsFrom_of_missing_ne_one (h : p.low ≤ b.toNat ∧ b.toNat ≤ p.high)
    (hmissing : p.missing ≠ 1) :
    charsFrom (some p) (b :: rest) = charsFrom (some (p.next b)) rest := by
  rw [charsFrom, if_pos (by simpa using h), if_neg hmissing]
  rfl

/-- A further byte in range, if it is not the last one, leaves the bytes behind it pending. -/
theorem ReadAs.next (hread : ReadAs read p) (h : p.low ≤ b.toNat ∧ b.toNat ≤ p.high)
    (hmissing : p.missing ≠ 1) : ReadAs (read ++ [b]) (p.next b) := by
  have hpos := hread.missing_pos
  refine ⟨fun tail => ?_, fun fill hfill => ?_, ⟨List.replicate (p.missing - 1) 0x80, ?_⟩, ?_⟩
  · rw [List.append_assoc, hread.charsFrom_append, List.singleton_append,
      charsFrom_of_missing_ne_one h hmissing]
  · have hlength : fill.length = p.missing - 1 := hfill.length_eq
    have hmem : ∀ b' ∈ fill, 0x80 ≤ b'.toNat ∧ b'.toNat ≤ 0xBF := by
      cases fill with
      | nil => simp
      | cons first later =>
        exact List.forall_mem_cons.mpr ⟨hfill.first_mem first rfl, hfill.later_mem⟩
    rw [List.append_assoc]
    refine hread.exists_char (b :: fill) ⟨?_, fun b' hb' => ?_, hmem⟩
    · rw [List.length_cons]
      omega
    · obtain rfl := Option.some.inj hb'
      exact h
  · have hmem : ∀ b' ∈ List.replicate (p.missing - 1) (0x80 : UInt8),
        0x80 ≤ b'.toNat ∧ b'.toNat ≤ 0xBF := by
      intro b' hb'
      rw [List.eq_of_mem_replicate hb']
      decide
    exact ⟨List.length_replicate, fun b' hb' => hmem b' (List.mem_of_mem_head? hb'),
      fun b' hb' => hmem b' (List.mem_of_mem_tail hb')⟩
  · show 0 < p.missing - 1
    omega

end Pending

/-! ## Broken characters -/

/-- Some character starts with the bytes. -/
def BeginsChar (bytes : List UInt8) : Prop := ∃ c : Char, bytes <+: String.utf8EncodeChar c

/-- Bytes at the front of others that are read as one broken character. No character stands there,
and they are as many as begin one; if no byte there begins one, they are a single byte. -/
structure Broken (piece rest : List UInt8) : Prop where
  ne_nil : piece ≠ []
  not_char : ∀ c : Char, ¬ String.utf8EncodeChar c <+: piece ++ rest
  begins : BeginsChar piece ∨ piece.length = 1
  longest : ∀ front, front <+: piece ++ rest → BeginsChar front → front.length ≤ piece.length

/-- The split of bytes into characters and broken ones. -/
inductive Decodes : List UInt8 → List (Option Char) → Prop where
  | nil : Decodes [] []
  | char (c : Char) {rest : List UInt8} {cs : List (Option Char)} (later : Decodes rest cs) :
    Decodes (String.utf8EncodeChar c ++ rest) (some c :: cs)
  | broken {piece rest : List UInt8} {cs : List (Option Char)} (first : Broken piece rest)
    (later : Decodes rest cs) : Decodes (piece ++ rest) (none :: cs)

section Broken

variable {read piece rest bytes : List UInt8} {p : Pending} {b : UInt8}

/-- Bytes that start with a character are not read as if they started with a broken one. -/
theorem not_prefix_of_charsFrom {cs : List (Option Char)} (h : charsFrom none bytes = none :: cs)
    (c : Char) : ¬ String.utf8EncodeChar c <+: bytes := by
  rintro ⟨more, rfl⟩
  rw [charsFrom_encodeChar] at h
  cases h

/-- Bytes behind which every byte makes the reading go wrong begin no character. -/
theorem not_beginsChar_of_charsFrom
    (h : ∀ more, ∃ cs, charsFrom none (bytes ++ more) = none :: cs) : ¬ BeginsChar bytes := by
  rintro ⟨c, more, hmore⟩
  obtain ⟨cs, hcs⟩ := h more
  exact not_prefix_of_charsFrom hcs c ⟨[], by rw [List.append_nil, hmore]⟩

/-- Of what stands in front, only what is not longer than some bytes begins a character if those
bytes together with the next one begin none. -/
theorem length_le_of_not_beginsChar {front : List UInt8} (h : ¬ BeginsChar (read ++ [b]))
    (hfront : front <+: read ++ b :: rest) (hbegins : BeginsChar front) :
    front.length ≤ read.length := by
  refine Nat.le_of_not_lt fun hlonger => h ?_
  obtain ⟨c, hc⟩ := hbegins
  have hnext : read ++ [b] <+: read ++ b :: rest :=
    List.prefix_append_right_inj read |>.mpr (List.prefix_append [b] rest)
  have hshorter : (read ++ [b]).length ≤ front.length := by
    rw [List.length_append]
    exact hlonger
  exact ⟨c, (List.prefix_of_prefix_length_le hnext hfront hshorter).trans hc⟩

theorem ReadAs.beginsChar (hread : ReadAs read p) : BeginsChar read := by
  obtain ⟨fill, hfill⟩ := hread.exists_fill
  obtain ⟨c, hc⟩ := hread.exists_char fill hfill
  exact ⟨c, fill, hc.symm⟩

theorem ReadAs.ne_nil (hread : ReadAs read p) : read ≠ [] := by
  rintro rfl
  have hpending := hread.charsFrom_append []
  cases hpending

/-- Bytes that leave a character pending come to a whole one with what follows, or break off. -/
theorem ReadAs.char_or_broken (hread : ReadAs read p) (tail : List UInt8) :
    (∃ c : Char, String.utf8EncodeChar c <+: read ++ tail) ∨
      ∃ piece rest, read ++ tail = piece ++ rest ∧ Broken piece rest ∧
        charsFrom (some p) tail = none :: charsFrom none rest := by
  induction tail generalizing read p with
  | nil =>
    have hbroken := not_prefix_of_charsFrom (hread.charsFrom_append [])
    refine .inr ⟨read, [], rfl, ⟨hread.ne_nil, hbroken, .inl hread.beginsChar, ?_⟩, rfl⟩
    exact fun front hfront _ => by simpa using hfront.length_le
  | cons b tail ih =>
    by_cases hrange : p.low ≤ b.toNat ∧ b.toNat ≤ p.high
    · by_cases hmissing : p.missing = 1
      · obtain ⟨c, hc⟩ := hread.exists_char [b] ⟨hmissing.symm, by simpa using hrange, by simp⟩
        exact .inl ⟨c, tail, by rw [hc, List.append_assoc, List.singleton_append]⟩
      · have hnext := ih (hread.next hrange hmissing)
        rw [List.append_assoc, List.singleton_append] at hnext
        rwa [charsFrom_of_missing_ne_one hrange hmissing]
    · have hbroken (more : List UInt8) : charsFrom none (read ++ b :: more) =
          none :: charsFrom none (b :: more) := by
        rw [hread.charsFrom_append, charsFrom_of_out_of_range hrange]
      have hnone : ¬ BeginsChar (read ++ [b]) := not_beginsChar_of_charsFrom fun more =>
        ⟨_, by rw [List.append_assoc, List.singleton_append, hbroken]⟩
      exact .inr ⟨read, b :: tail, rfl, ⟨hread.ne_nil, not_prefix_of_charsFrom (hbroken tail),
        .inl hread.beginsChar, fun _ => length_le_of_not_beginsChar hnone⟩,
        charsFrom_of_out_of_range hrange⟩

/-- At the front of any bytes stands a whole character or a broken one, which is read as such. -/
theorem char_or_broken (hne : bytes ≠ []) :
    (∃ c : Char, String.utf8EncodeChar c <+: bytes) ∨
      ∃ piece rest, bytes = piece ++ rest ∧ Broken piece rest ∧
        chars bytes = none :: chars rest := by
  obtain ⟨b, tail, rfl⟩ := List.exists_cons_of_ne_nil hne
  cases hbegins : beginning b with
  | whole c =>
    exact .inl ⟨_, tail, by rw [encodeChar_one (ascii_of_beginning_eq_whole hbegins)]; rfl⟩
  | longer p =>
    rw [chars, charsFrom_longer hbegins]
    exact (ReadAs.of_beginning hbegins).char_or_broken tail
  | broken =>
    have hbroken (more : List UInt8) :
        charsFrom none (b :: more) = none :: charsFrom none more := by rw [charsFrom, hbegins]
    have hnone : ¬ BeginsChar ([] ++ [b]) :=
      not_beginsChar_of_charsFrom fun more => ⟨_, hbroken more⟩
    refine .inr ⟨[b], tail, rfl, ⟨List.cons_ne_nil _ _, not_prefix_of_charsFrom (hbroken tail),
      .inr rfl, fun front hfront hchar => ?_⟩, hbroken tail⟩
    exact Nat.le_trans (length_le_of_not_beginsChar hnone hfront hchar) (Nat.zero_le _)

/-- Two broken characters at the front of the same bytes are the same. -/
theorem Broken.append_cancel {piece' rest' : List UInt8} (h : Broken piece rest)
    (h' : Broken piece' rest') (heq : piece ++ rest = piece' ++ rest') :
    piece = piece' ∧ rest = rest' := by
  have hle {piece rest piece' rest' : List UInt8} (h : Broken piece rest)
      (h' : Broken piece' rest') (heq : piece ++ rest = piece' ++ rest') :
      piece.length ≤ piece'.length := by
    rcases h.begins with hbegins | hone
    · exact h'.longest piece (heq ▸ List.prefix_append piece rest) hbegins
    · rw [hone]
      exact List.length_pos_iff.mpr h'.ne_nil
  exact List.append_inj heq (Nat.le_antisymm (hle h h' heq) (hle h' h heq.symm))

/-- A broken character is read as one. -/
theorem Broken.chars_append (h : Broken piece rest) :
    chars (piece ++ rest) = none :: chars rest := by
  rcases char_or_broken (List.append_ne_nil_of_left_ne_nil h.ne_nil rest) with ⟨c, hc⟩ | hbroken
  · exact absurd hc (h.not_char c)
  · obtain ⟨piece', rest', heq, h', hchars⟩ := hbroken
    rw [hchars, (h.append_cancel h' heq).2]

/-- A broken character holds no byte of ASCII. -/
theorem Broken.not_ascii (h : Broken piece rest) : ∀ b ∈ piece, 0x80 ≤ b.toNat := by
  intro b hb
  rcases h.begins with ⟨c, more, hmore⟩ | hone
  · rcases encodeChar_cases c with ⟨-, hascii⟩ | ⟨-, hhigh⟩
    · -- What a character of one byte begins with is all of it, and no character stands here.
      have hwhole : piece = String.utf8EncodeChar c := by
        rw [hascii] at hmore ⊢
        obtain ⟨first, later, rfl⟩ := List.exists_cons_of_ne_nil h.ne_nil
        rw [List.cons_append, List.cons.injEq, List.append_eq_nil_iff] at hmore
        rw [hmore.1, hmore.2.1]
      exact absurd (hwhole ▸ List.prefix_append piece rest) (h.not_char c)
    · exact hhigh b (hmore ▸ List.mem_append_left more hb)
  · obtain ⟨first, rfl⟩ := List.length_eq_one_iff.mp hone
    obtain rfl := List.mem_singleton.mp hb
    refine Nat.le_of_not_lt fun hascii => h.not_char (Char.ofNat b.toNat) ?_
    rw [encodeChar_one hascii]
    exact List.prefix_append [b] rest

end Broken

/-! ## Decoding -/

section Decoding

variable {bytes : List UInt8} {cs : List (Option Char)}

theorem chars_of_decodes (h : Decodes bytes cs) : cs = chars bytes := by
  induction h with
  | nil => rfl
  | char c later ih =>
    rw [chars, charsFrom_encodeChar, ih]
    rfl
  | broken first later ih => rw [first.chars_append, ih]

theorem decodes_chars (bytes : List UInt8) : Decodes bytes (chars bytes) := by
  induction hlength : bytes.length using Nat.strongRecOn generalizing bytes with
  | ind n ih =>
    cases bytes with
    | nil => exact .nil
    | cons b tail =>
      rcases char_or_broken (List.cons_ne_nil b tail) with ⟨c, rest, hrest⟩ | hbroken
      · rw [← hrest] at hlength ⊢
        rw [chars, charsFrom_encodeChar]
        rw [List.length_append] at hlength
        have hpos : 0 < (String.utf8EncodeChar c).length :=
          String.length_utf8EncodeChar c ▸ c.utf8Size_pos
        exact .char c (ih rest.length (by omega) rest rfl)
      · obtain ⟨piece, rest, heq, hpiece, hchars⟩ := hbroken
        have hpos := List.length_pos_iff.mpr hpiece.ne_nil
        rw [hchars, heq]
        rw [heq, List.length_append] at hlength
        exact .broken hpiece (ih rest.length (by omega) rest rfl)

/-- The split that decoding goes by is the only one. -/
theorem decodes_iff : Decodes bytes cs ↔ cs = chars bytes :=
  ⟨chars_of_decodes, fun h => h ▸ decodes_chars bytes⟩

theorem allSome_eq_some_iff {xs : List (Option Char)} {text : List Char} :
    allSome xs = some text ↔ xs = text.map some := by
  induction xs generalizing text with
  | nil => cases text <;> simp [allSome]
  | cons x rest ih =>
    cases x with
    | none => cases text <;> simp [allSome]
    | some c =>
      cases text with
      | nil => simp [allSome]
      | cons c' text => simp [allSome, ih, and_comm]

/-- Bytes that are valid throughout are those of their text. -/
theorem decode?_eq_some_iff {text : List Char} :
    decode? bytes = some text ↔ bytes = encode text := by
  constructor
  · intro h
    have hdecodes := decodes_chars bytes
    rw [allSome_eq_some_iff.mp h] at hdecodes
    clear h
    induction text generalizing bytes with
    | nil => cases hdecodes; rfl
    | cons c text ih =>
      cases hdecodes with
      | char _ later => rw [ih later, encode, encode, List.flatMap_cons]
  · rintro rfl
    exact decode?_encode text

/-- Bytes that are valid are read alike whether or not invalid ones would be accepted. -/
theorem getD_decode? (bytes : List UInt8) :
    (decode? bytes).getD (decodeLossy bytes) = decodeLossy bytes := by
  cases h : decode? bytes with
  | none => rfl
  | some text => rw [decode?_eq_some_iff.mp h, decodeLossy_encode, Option.getD_some]

/-- A text that stands in front is read as it is, whatever bytes follow. -/
theorem decodeLossy_encode_append (text : List Char) (bytes : List UInt8) :
    decodeLossy (encode text ++ bytes) = text ++ decodeLossy bytes := by
  induction text with
  | nil => rfl
  | cons c text ih =>
    rw [encode, List.flatMap_cons, List.append_assoc, decodeLossy, chars, charsFrom_encodeChar,
      List.map_cons, Option.getD_some, List.cons_append]
    exact congrArg _ ih

theorem filter_ascii_encodeChar (c : Char) :
    (((String.utf8EncodeChar c).filter (·.toNat < 0x80)).map fun b => Char.ofNat b.toNat) =
      [c].filter (·.toNat < 0x80) := by
  rcases encodeChar_cases c with ⟨hascii, hone⟩ | ⟨hhigh, hbytes⟩
  · have hbyte : (UInt8.ofNat c.toNat).toNat = c.toNat :=
      UInt8.toNat_ofNat_of_lt (Nat.lt_trans hascii (by decide))
    simp [hone, hbyte, hascii]
  · have hnone : (String.utf8EncodeChar c).filter (·.toNat < 0x80) = [] := by
      simpa [List.filter_eq_nil_iff] using hbytes
    rw [hnone, List.filter_cons_of_neg (by simpa using hhigh)]
    rfl

/-- The ASCII characters of a decoded text are the ASCII bytes, in their order. -/
theorem filter_ascii_decodeLossy (bytes : List UInt8) :
    (decodeLossy bytes).filter (·.toNat < 0x80) =
      (bytes.filter (·.toNat < 0x80)).map fun b => Char.ofNat b.toNat := by
  have hdecodes := decodes_chars bytes
  rw [decodeLossy]
  generalize chars bytes = cs at hdecodes
  induction hdecodes with
  | nil => rfl
  | char c later ih =>
    rw [List.map_cons, Option.getD_some, ← List.singleton_append, List.filter_append, ih,
      List.filter_append, List.map_append, filter_ascii_encodeChar]
  | @broken piece rest cs first later ih =>
    have hnone : piece.filter (·.toNat < 0x80) = [] := by
      simpa [List.filter_eq_nil_iff] using first.not_ascii
    rw [List.filter_append, hnone, List.nil_append, ← ih]
    rfl

end Decoding

end RedactedBundle.Utf8
