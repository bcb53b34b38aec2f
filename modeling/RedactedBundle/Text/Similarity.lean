/-!
# Similarity of texts

How similar two texts are by the number of characters that they have in common at about the same
place, after Jaro.

## Main definitions

- `Text.common`: the characters that two texts have in common
- `Text.isSimilar`: two texts have a similarity of more than seven tenths
-/

namespace RedactedBundle.Text

/-- Marks the first place of a character, from a least place on, that is not marked yet. -/
def markFirst (c : Char) (least place : Nat) : List Char → List Bool → Option (List Bool)
  | other :: rest, marked :: marks =>
    if least ≤ place && other = c && !marked then some (true :: marks)
    else (markFirst c least (place + 1) rest marks).map (marked :: ·)
  | _, _ => none

/-- Finds for each character of the first text, in order, an equal one of the second that is at
most `range` places away and not found before: which characters of both have been found. -/
def pairUp (range : Nat) (second : List Char) :
    Nat → List Char → List Bool → List Bool × List Bool
  | _, [], marks => ([], marks)
  | place, c :: rest, marks =>
    match markFirst c (place - range) 0 (second.take (place + range + 1)) marks with
    | some marks' =>
      let marks := marks' ++ marks.drop marks'.length
      let (found, marks) := pairUp range second (place + 1) rest marks
      (true :: found, marks)
    | none =>
      let (found, marks) := pairUp range second (place + 1) rest marks
      (false :: found, marks)

/-- The marked characters of a text. -/
def marked (cs : List Char) (marks : List Bool) : List Char :=
  ((cs.zip marks).filter Prod.snd).map Prod.fst

/-- The characters that two texts have in common, in the order of the first and of the second. -/
def common (a b : List Char) : List Char × List Char :=
  let range := max a.length b.length / 2 - 1
  let (found, marks) := pairUp range b 0 a (List.replicate b.length false)
  (marked a found, marked b marks)

/-- The mean of three shares is more than seven tenths: those of the common characters in both
texts, and that of the common characters which are not out of order. -/
def isSimilar (a b : List Char) : Bool :=
  let (inFirst, inSecond) := common a b
  let m := inFirst.length
  let astray := ((inFirst.zip inSecond).filter fun (c, d) => c ≠ d).length / 2
  if a.isEmpty && b.isEmpty then true
  else 21 * a.length * b.length * m <
    10 * (m * b.length * m + m * a.length * m + (m - astray) * a.length * b.length)

end RedactedBundle.Text
