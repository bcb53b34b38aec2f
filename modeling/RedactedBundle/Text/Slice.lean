/-!
# Byte offsets into text

A text is a list of characters; a position in it is a number of UTF-8 bytes. A position is
valid when it falls between two characters, so cutting at a position may fail.

## Main definitions

- `byteLength`: the number of bytes a list of characters takes
- `dropBytes?`, `takeBytes?`: the text after, and before, a valid position
- `Span`: a half-open range of byte positions
- `slice?`: the text inside a span, if both ends are valid and in order
-/

namespace RedactedBundle

/-- A half-open range of byte positions of a text. -/
structure Span where
  start : Nat
  stop : Nat
  deriving Repr, DecidableEq, Inhabited

namespace Text

/-- The number of bytes of the UTF-8 encoding of a list of characters. -/
def byteLength : List Char → Nat
  | [] => 0
  | c :: cs => c.utf8Size + byteLength cs

/-- The text after the first `n` bytes; fails past the end and inside a character. -/
def dropBytes? : List Char → Nat → Option (List Char)
  | cs, 0 => some cs
  | [], _ + 1 => none
  | c :: cs, n + 1 => if c.utf8Size ≤ n + 1 then dropBytes? cs (n + 1 - c.utf8Size) else none

/-- Collects the first `n` bytes of a text behind those already `taken`, newest first. -/
def takeBytesOnto? (taken : List Char) : List Char → Nat → Option (List Char)
  | _, 0 => some taken.reverse
  | [], _ + 1 => none
  | c :: cs, n + 1 =>
    if c.utf8Size ≤ n + 1 then takeBytesOnto? (c :: taken) cs (n + 1 - c.utf8Size) else none

/-- The first `n` bytes of a text; fails past the end and inside a character. -/
def takeBytes? (cs : List Char) (n : Nat) : Option (List Char) :=
  takeBytesOnto? [] cs n

/-- The text inside a span. It fails when the span ends before it starts, reaches past the
end of the text, or has an end inside a character. -/
def slice? (cs : List Char) (span : Span) : Option (List Char) :=
  if span.start ≤ span.stop then
    (dropBytes? cs span.start).bind (takeBytes? · (span.stop - span.start))
  else
    none

/-- The position lies between two characters of the text, or at one of its ends. -/
def IsBoundary (cs : List Char) (n : Nat) : Prop :=
  ∃ before after, cs = before ++ after ∧ byteLength before = n

@[simp] theorem byteLength_nil : byteLength [] = 0 := rfl

@[simp] theorem byteLength_cons (c : Char) (cs : List Char) :
    byteLength (c :: cs) = c.utf8Size + byteLength cs := rfl

@[simp] theorem byteLength_append (xs ys : List Char) :
    byteLength (xs ++ ys) = byteLength xs + byteLength ys := by
  induction xs with
  | nil => simp
  | cons c cs ih => simp [ih, Nat.add_assoc]

@[simp] theorem dropBytes?_zero (cs : List Char) : dropBytes? cs 0 = some cs := by
  cases cs <;> rfl

/-- Dropping exactly the bytes of a leading part leaves the rest. -/
theorem dropBytes?_append (xs ys : List Char) :
    dropBytes? (xs ++ ys) (byteLength xs) = some ys := by
  induction xs with
  | nil => simp
  | cons c cs ih =>
    have hc := Char.utf8Size_pos c
    obtain ⟨m, hm⟩ : ∃ m, byteLength (c :: cs) = m + 1 :=
      ⟨byteLength (c :: cs) - 1, by simp; omega⟩
    rw [List.cons_append, hm, dropBytes?]
    have hle : c.utf8Size ≤ m + 1 := by rw [← hm]; simp
    rw [if_pos hle, ← hm, byteLength_cons, Nat.add_sub_cancel_left, ih]

/-- Taking exactly the bytes of a leading part collects that part. -/
theorem takeBytesOnto?_append (taken xs ys : List Char) :
    takeBytesOnto? taken (xs ++ ys) (byteLength xs) = some (taken.reverse ++ xs) := by
  induction xs generalizing taken with
  | nil => cases ys <;> simp [takeBytesOnto?]
  | cons c cs ih =>
    have hc := Char.utf8Size_pos c
    obtain ⟨m, hm⟩ : ∃ m, byteLength (c :: cs) = m + 1 :=
      ⟨byteLength (c :: cs) - 1, by simp; omega⟩
    rw [List.cons_append, hm, takeBytesOnto?]
    have hle : c.utf8Size ≤ m + 1 := by rw [← hm]; simp
    rw [if_pos hle, ← hm, byteLength_cons, Nat.add_sub_cancel_left, ih]
    simp

theorem takeBytes?_append (xs ys : List Char) :
    takeBytes? (xs ++ ys) (byteLength xs) = some xs := by
  simp [takeBytes?, takeBytesOnto?_append]

/-- A part of a text is what its own span cuts out. -/
theorem slice?_append (before part after : List Char) :
    slice? (before ++ (part ++ after))
      ⟨byteLength before, byteLength before + byteLength part⟩ = some part := by
  simp [slice?, dropBytes?_append, takeBytes?_append]

end Text

end RedactedBundle
