import RedactedBundle.Toml.Scalar

/-!
# Reading TOML documents

A document is read line by line into a table. Any fault makes the whole document invalid.

## Main definitions

- `Toml.parse?`: the table of a document
-/

namespace RedactedBundle.Toml

/-- The largest number of values nested in each other and of parts of a dotted key. -/
def depthLimit : Nat := 80

/-- A character of a key without quotation marks. -/
def isBareKey (c : Char) : Bool := c.isAlphanum || c = '_' || c = '-'

/-- Reads one part of a key. -/
def keyPart? (cs : List Char) : Option (String × List Char) :=
  match cs with
  | '"' :: rest =>
    (basicLine? (rest.length + 1) [] rest).map fun (k, rest) => (String.ofList k, rest)
  | '\'' :: rest => (literalLine? [] rest).map fun (k, rest) => (String.ofList k, rest)
  | cs =>
    let k := cs.takeWhile isBareKey
    if k.isEmpty then none else some (String.ofList k, cs.drop k.length)

/-- Reads a dotted key with spaces around its parts. The first number bounds the number of
parts. -/
def key? : Nat → List Char → Option (List String × List Char)
  | 0, _ => none
  | n + 1, cs =>
    (keyPart? (cs.dropWhile isSpace)).bind fun (part, rest) =>
      match rest.dropWhile isSpace with
      | '.' :: rest => (key? n rest).map fun (parts, rest) => (part :: parts, rest)
      | rest => some ([part], rest)

/-- Reads a comment up to the end of its line. -/
def dropComment : List Char → Option (List Char)
  | [] => some []
  | c :: rest =>
    if c = '\n' || (c = '\r' && rest.head? = some '\n') then some (c :: rest)
    else if isPlain c then dropComment rest
    else none

/-- The text behind white space, line ends and comments between the elements of an array. The
first number bounds the number of comments. -/
def dropBetween? : Nat → List Char → Option (List Char)
  | 0, cs => some cs
  | n + 1, cs =>
    match dropBlankLines cs with
    | '#' :: rest => (dropComment rest).bind fun rest => dropBetween? n rest
    | rest => some rest

mutual

/-- Reads a value inside so many others. The first number bounds the number of steps. -/
def value? : Nat → Nat → List Char → Option (Value × List Char)
  | 0, _, _ => none
  | n + 1, depth, cs =>
    match cs with
    | '"' :: _ => (basicString? cs).map fun (s, rest) => (.string (String.ofList s), rest)
    | '\'' :: _ => (literalString? cs).map fun (s, rest) => (.string (String.ofList s), rest)
    | '[' :: rest =>
      if depth + 1 < depthLimit then
        (elements? n (depth + 1) [] rest).map fun (es, rest) => (.array es, rest)
      else none
    | '\x7b' :: rest =>
      if depth + 1 < depthLimit then
        match rest.dropWhile isSpace with
        | '\x7d' :: rest => some (.table [], rest)
        | rest =>
          (pairs? n (depth + 1) [] rest).map fun (slots, rest) => (.table (entriesOf slots), rest)
      else none
    | 't' :: 'r' :: 'u' :: 'e' :: rest => some (.boolean true, rest)
    | 'f' :: 'a' :: 'l' :: 's' :: 'e' :: rest => some (.boolean false, rest)
    | cs => (datetime? cs).bind fun found => found.orElse fun _ => number? cs

/-- Reads the elements of an array behind its bracket, those so far newest first. -/
def elements? : Nat → Nat → List Value → List Char → Option (List Value × List Char)
  | 0, _, _, _ => none
  | n + 1, depth, got, cs =>
    (dropBetween? cs.length cs).bind fun cs =>
      match cs with
      | ']' :: rest => some (got.reverse, rest)
      | cs =>
        (value? n depth cs).bind fun (v, rest) =>
          (dropBetween? rest.length rest).bind fun rest =>
            match rest with
            | ',' :: rest => elements? n depth (v :: got) rest
            | ']' :: rest => some ((v :: got).reverse, rest)
            | _ => none

/-- Reads the pairs of an inline table, of which there is at least one. -/
def pairs? : Nat → Nat → Slots → List Char → Option (Slots × List Char)
  | 0, _, _, _ => none
  | n + 1, depth, slots, cs =>
    (key? (depthLimit - 1) cs).bind fun (path, rest) =>
      (after? '=' rest).bind fun rest =>
        (value? n depth (rest.dropWhile isSpace)).bind fun (v, rest) =>
          (insertDotted? (path.getLastD "") v path.dropLast slots).bind fun slots =>
            match rest.dropWhile isSpace with
            | ',' :: rest => pairs? n depth slots rest
            | '\x7d' :: rest => some (slots, rest)
            | _ => none

end

/-- The text of the next line, where only white space and a comment may stand before it. -/
def lineEnd? (cs : List Char) : Option (List Char) :=
  let finish (cs : List Char) : Option (List Char) :=
    match cs with
    | [] => some []
    | cs => afterNewline? cs
  match cs.dropWhile isSpace with
  | '#' :: rest => (dropComment rest).bind finish
  | rest => finish rest

/-- A line of a document. -/
inductive Line where
  | blank
  | table (path : List String)
  | element (path : List String)
  | pair (path : List String) (v : Value)

/-- Reads one line that holds a character. -/
def line? (cs : List Char) : Option (Line × List Char) :=
  match cs.dropWhile isSpace with
  | [] => some (.blank, [])
  | '[' :: '[' :: rest => do
    let (path, rest) ← key? (depthLimit - 1) rest
    let rest ← after? ']' rest
    let rest ← after? ']' rest
    let rest ← lineEnd? rest
    pure (.element path, rest)
  | '[' :: rest => do
    let (path, rest) ← key? (depthLimit - 1) rest
    let rest ← after? ']' rest
    let rest ← lineEnd? rest
    pure (.table path, rest)
  | c :: rest =>
    if c = '#' || c = '\n' || c = '\r' then (lineEnd? (c :: rest)).map fun rest => (.blank, rest)
    else do
      let (path, rest) ← key? (depthLimit - 1) (c :: rest)
      let rest ← after? '=' rest
      let (v, rest) ← value? (2 * rest.length + 2) 0 (rest.dropWhile isSpace)
      let rest ← lineEnd? rest
      pure (.pair path v, rest)

/-- Reads the lines of a document into the slots so far, given the path of the last header. The
first number bounds the number of lines. -/
def lines? : Nat → List String → Slots → List Char → Option Slots
  | 0, _, slots, _ => some slots
  | _, _, slots, [] => some slots
  | n + 1, header, slots, cs =>
    (line? cs).bind fun (line, rest) =>
      match line with
      | .blank => lines? n header slots rest
      | .table path =>
        (change? (openTable? (path.getLastD "")) path.dropLast slots).bind fun slots =>
          lines? n path slots rest
      | .element path =>
        (change? (openElement? (path.getLastD "")) path.dropLast slots).bind fun slots =>
          lines? n path slots rest
      -- Headers are taken from the top of the document, and pairs from the last header.
      | .pair path v =>
        (change? (insertDotted? (path.getLastD "") v path.dropLast) header slots).bind fun slots =>
          lines? n header slots rest

/-- The table of a document; a byte order mark in front is passed over. -/
def parse? (cs : List Char) : Option (List (String × Value)) :=
  let cs := match cs with
    | '\ufeff' :: rest => rest
    | cs => cs
  (lines? (cs.length + 1) [] [] cs).map entriesOf

end RedactedBundle.Toml
