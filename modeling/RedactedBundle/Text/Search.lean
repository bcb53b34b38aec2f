/-!
# Searching in text

## Main definitions

- `Text.isPart`: a text occurs in another
- `Text.replaceAll`: replacing each occurrence of a text
- `Text.splitAt?`: cutting a text at the first occurrence of another
- `Text.splitOn`: the texts between the occurrences of another
-/

namespace RedactedBundle.Text

/-- The text before and behind the first occurrence of another. -/
def splitAt? (part : List Char) : List Char → Option (List Char × List Char)
  | [] => if part.isEmpty then some ([], []) else none
  | c :: rest =>
    if part.isPrefixOf (c :: rest) then some ([], (c :: rest).drop part.length)
    else (splitAt? part rest).map fun (before, after) => (c :: before, after)

/-- The first text occurs in the second. -/
def isPart (part cs : List Char) : Bool := (splitAt? part cs).isSome

/-- Replaces each occurrence of a text that is not empty; the number bounds the occurrences. -/
def replaceFrom (old new : List Char) : Nat → List Char → List Char
  | 0, cs => cs
  | n + 1, cs =>
    match splitAt? old cs with
    | some (before, after) => before ++ new ++ replaceFrom old new n after
    | none => cs

/-- Replaces each occurrence of a text; the empty text occurs around every character. -/
def replaceAll (old new cs : List Char) : List Char :=
  if old.isEmpty then new ++ cs.flatMap (· :: new) else replaceFrom old new cs.length cs

/-- Splits at each occurrence of a text that is not empty; the number bounds the occurrences. -/
def splitOn (part : List Char) : Nat → List Char → List (List Char)
  | 0, cs => [cs]
  | n + 1, cs =>
    match splitAt? part cs with
    | some (before, after) => before :: splitOn part n after
    | none => [cs]

end RedactedBundle.Text
