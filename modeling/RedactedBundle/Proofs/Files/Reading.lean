import Mathlib.Logic.ExistsUnique
import RedactedBundle.Files.Listing
import RedactedBundle.Proofs.Text.Decoding

/-!
# Reading a source file

A file that can be read gives a text whatever its bytes are. Valid bytes give the text they spell,
and invalid ones give U+FFFD for each broken character. One byte order mark at the start is dropped,
before valid and before invalid bytes. What is ASCII in the text is what is ASCII in the file.

## Main statements

- `FileSystem.readSource_of_read_eq_ok`: the text of a file
-/

namespace RedactedBundle

namespace Utf8

/-- The byte order mark. -/
def mark : Char := '\ufeff'

variable {cs rest : List Char}

theorem dropMark_cons_mark (rest : List Char) : dropMark (mark :: rest) = rest := rfl

theorem dropMark_of_head?_ne (h : cs.head? ≠ some mark) : dropMark cs = cs := by
  rw [dropMark]
  rintro rest rfl
  exact h rfl

/-- The mark is no character of ASCII. -/
theorem filter_ascii_dropMark (cs : List Char) :
    (dropMark cs).filter (·.toNat < 0x80) = cs.filter (·.toNat < 0x80) := by
  by_cases h : cs.head? = some mark
  · obtain ⟨rest, rfl⟩ := List.head?_eq_some_iff.mp h
    have hmark : ¬ mark.toNat < 0x80 := by decide
    rw [dropMark_cons_mark, List.filter_cons_of_neg (by simpa using hmark)]
  · rw [dropMark_of_head?_ne h]

/-- A mark in front of any bytes is read as a mark in front of their text. -/
theorem decodeLossy_mark_append (bytes : List UInt8) :
    decodeLossy ([0xEF, 0xBB, 0xBF] ++ bytes) = mark :: decodeLossy bytes :=
  decodeLossy_encode_append [mark] bytes

end Utf8

/-- A file that can be read is read as a text. Its bytes split in one way into characters and broken
ones, which become U+FFFD; if they are valid, they are the bytes of their text, and it makes no
difference whether invalid ones would be accepted. Of marks at the start the first one is dropped,
and nothing else. The ASCII characters of the text are the ASCII bytes of the file, in order. -/
theorem FileSystem.readSource_of_read_eq_ok {fs : FileSystem} {path : Path} {bytes : List UInt8}
    (hread : fs.read path = .ok bytes) :
    ∃ text : List Char, fs.readSource path = .ok (String.ofList text) ∧
      (∃! split, Utf8.Decodes bytes split) ∧
      (∀ split, Utf8.Decodes bytes split →
        Utf8.decodeLossy bytes = split.map (·.getD '\ufffd')) ∧
      (∀ cs, bytes = Utf8.encode cs →
        Utf8.decode? bytes = some cs ∧ Utf8.decodeLossy bytes = cs) ∧
      ((∀ cs, bytes ≠ Utf8.encode cs) → Utf8.decode? bytes = none) ∧
      (∀ rest, Utf8.decodeLossy bytes = Utf8.mark :: rest → text = rest) ∧
      ((Utf8.decodeLossy bytes).head? ≠ some Utf8.mark → text = Utf8.decodeLossy bytes) ∧
      (∀ rest, bytes = [0xEF, 0xBB, 0xBF] ++ rest →
        text = (Utf8.decode? rest).getD (Utf8.decodeLossy rest)) ∧
      text.filter (·.toNat < 0x80) =
        (bytes.filter (·.toNat < 0x80)).map fun b => Char.ofNat b.toNat := by
  refine ⟨Utf8.dropMark (Utf8.decodeLossy bytes), ?_, ⟨_, Utf8.decodes_chars bytes, ?_⟩, ?_, ?_, ?_,
    ?_, Utf8.dropMark_of_head?_ne, ?_, ?_⟩
  · rw [readSource, hread]
    dsimp only
    rw [decodeSource, Utf8.getD_decode?]
  · exact fun split hsplit => Utf8.decodes_iff.mp hsplit
  · rintro split hsplit
    rw [Utf8.decodeLossy, Utf8.decodes_iff.mp hsplit]
  · rintro cs rfl
    exact ⟨Utf8.decode?_encode cs, Utf8.decodeLossy_encode cs⟩
  · intro hinvalid
    refine Option.eq_none_iff_forall_not_mem.mpr fun cs hcs => ?_
    exact hinvalid cs (Utf8.decode?_eq_some_iff.mp hcs)
  · intro rest hrest
    rw [hrest, Utf8.dropMark_cons_mark]
  · rintro rest rfl
    rw [Utf8.decodeLossy_mark_append, Utf8.dropMark_cons_mark, Utf8.getD_decode?]
  · rw [Utf8.filter_ascii_dropMark, Utf8.filter_ascii_decodeLossy]

/-- A mark, a character of three bytes that is broken off in front of a brace, and a byte that is
part of no character. -/
def markedBytes : List UInt8 := [0xEF, 0xBB, 0xBF, 0xE2, 0x82, 0x7B, 0xFF, 0x7D]

/-- A file system with a file of those bytes. -/
def markedFile : FileSystem := ⟨[([Utf8.encode "a".toList], .file markedBytes false)], []⟩

/-- The mark is dropped, and no brace is lost. -/
theorem readSource_of_read_eq_ok_markedFile :
    markedFile.read (.ofString "a") = .ok markedBytes ∧
      markedFile.readSource (.ofString "a") = .ok "\uFFFD\x7b\uFFFD\x7d" := by
  have hread : markedFile.read (.ofString "a") = .ok markedBytes := by decide +kernel
  obtain ⟨text, htext, -, -, -, -, -, -, hmark, -⟩ := FileSystem.readSource_of_read_eq_ok hread
  have hrest : text = "\uFFFD\x7b\uFFFD\x7d".toList := by
    rw [hmark [0xE2, 0x82, 0x7B, 0xFF, 0x7D] rfl]
    decide
  rw [htext, hrest, String.ofList_toList]
  exact ⟨hread, rfl⟩

end RedactedBundle
