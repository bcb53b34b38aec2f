/-!
# Wrapped text

A text of words cut into lines of a width. A word goes to the next line if it does not fit; one
that is wider than a line is cut into pieces.

## Main definitions

- `Text.words`: the words of a text
- `Text.wrap`: the lines of a text
-/

namespace RedactedBundle.Text

/-- The words of a text, which spaces part. -/
def words : List Char → List (List Char)
  | [] => [[]]
  | ' ' :: rest => [] :: words rest
  | c :: rest =>
    match words rest with
    | word :: others => (c :: word) :: others
    | [] => [[c]]

/-- Cuts a word into pieces of a width; the last one may be shorter. -/
def cutWord (width : Nat) : (room : Nat) → List Char → List (List Char)
  | _, [] => [[]]
  | 0, c :: rest =>
    match cutWord width (width - 1) rest with
    | piece :: others => [] :: (c :: piece) :: others
    | [] => [[], [c]]
  | room + 1, c :: rest =>
    match cutWord width room rest with
    | piece :: others => (c :: piece) :: others
    | [] => [[c]]

/-- Lines of words that each fit into a line, with the current line given. -/
def fillLines (width : Nat) (line : List Char) : List (List Char) → List (List Char)
  | [] => [line]
  | word :: rest =>
    if line.isEmpty then fillLines width word rest
    else if line.length + 1 + word.length ≤ width then
      fillLines width (line ++ ' ' :: word) rest
    else line :: fillLines width word rest

/-- The lines of a text of words, all of whose characters take one column. -/
def wrap (width : Nat) (cs : List Char) : List (List Char) :=
  fillLines width [] ((words cs).flatMap (cutWord width width))

end RedactedBundle.Text
