import RedactedBundle.Toml.Document
import RedactedBundle.Toml.Reader

/-!
# Faults of TOML documents

Where a document that cannot be read is at fault.

## Main definitions

- `Toml.fault?`: the fault of a document
- `Toml.lineReader`: the reader of documents with these faults
-/

namespace RedactedBundle.Toml

/-- The fault in the header of a table, behind its brackets: the text from there on, and what is
wrong. -/
def headerFault (cs : List Char) : List Char × String :=
  match key? (depthLimit - 1) cs with
  | none => (cs.dropWhile isSpace, "invalid key")
  | some (_, ']' :: rest) => (rest.dropWhile isSpace, "expected newline, `#`")
  | some (_, rest) => (rest, "invalid table header\nexpected `.`, `]`")

/-- The fault in the value of a pair, behind the equals sign. -/
def valueFault (cs : List Char) : List Char × String :=
  let cs := cs.dropWhile isSpace
  match value? (2 * cs.length + 2) 0 cs with
  | none => (cs, "invalid string\nexpected `\"`, `'`")
  | some (_, rest) => (rest.dropWhile isSpace, "expected newline, `#`")

/-- The fault in a line that cannot be read. -/
def lineFault (cs : List Char) : List Char × String :=
  match cs.dropWhile isSpace with
  | '[' :: '[' :: rest => headerFault rest
  | '[' :: rest => headerFault rest
  | cs =>
    match key? (depthLimit - 1) cs with
    | none => (cs, "invalid key")
    | some (_, '=' :: rest) => valueFault rest
    | some (_, rest) => (rest, "expected `.`, `=`")

/-- A document from the first line that cannot be read. The number bounds the number of lines. -/
def fromBadLine? : Nat → List Char → Option (List Char)
  | 0, _ => none
  | _, [] => none
  | n + 1, c :: cs =>
    match line? (c :: cs) with
    | none => some (c :: cs)
    | some (_, rest) => fromBadLine? n rest

/-- The fault of a document, unless each of its lines can be read. -/
def fault? (cs : List Char) : Option Fault :=
  (fromBadLine? (cs.length + 1) cs).map fun rest =>
    let (behind, reason) := lineFault rest
    ⟨cs.take (cs.length - behind.length), behind, reason⟩

/-- The reader that goes through a document line by line. -/
instance lineReader : TomlReader := ⟨parse?, fault?⟩

end RedactedBundle.Toml
