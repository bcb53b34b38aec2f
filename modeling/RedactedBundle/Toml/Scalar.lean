import RedactedBundle.Toml.Value

/-!
# Strings, numbers and dates of TOML

Each reader takes a value from the front of a text and gives the value with the text behind it,
or fails.

## Main definitions

- `Toml.basicString?`, `Toml.literalString?`: strings
- `Toml.number?`, `Toml.datetime?`: numbers, dates and times
-/

namespace RedactedBundle.Toml

/-- A character that may stand in a comment or a string: no control character but a tab. -/
def isPlain (c : Char) : Bool := c = '\t' || (0x20 ≤ c.toNat && c.toNat ≠ 0x7F)

def isSpace (c : Char) : Bool := c = ' ' || c = '\t'

/-- The value of a hexadecimal digit. -/
def hexDigit? (c : Char) : Option Nat :=
  if c.isDigit then some (c.toNat - 48)
  else if 'a' ≤ c && c ≤ 'f' then some (c.toNat - 87)
  else if 'A' ≤ c && c ≤ 'F' then some (c.toNat - 55)
  else none

/-- The number that hexadecimal digits spell. -/
def hexNumber? : Nat → List Char → Option Nat
  | n, [] => some n
  | n, c :: rest => (hexDigit? c).bind fun d => hexNumber? (n * 16 + d) rest

/-- The character of a code point that hexadecimal digits spell. -/
def codePoint? (digits : List Char) : Option Char :=
  (hexNumber? 0 digits).bind fun n =>
    if n < 0xD800 || (0xDFFF < n && n ≤ 0x10FFFF) then some (Char.ofNat n) else none

/-- The character of an escape behind its backslash, and the text behind the escape. -/
def escape? : List Char → Option (Char × List Char)
  | 'b' :: rest => some ('\x08', rest)
  | 't' :: rest => some ('\t', rest)
  | 'n' :: rest => some ('\n', rest)
  | 'f' :: rest => some ('\x0c', rest)
  | 'r' :: rest => some ('\r', rest)
  | '"' :: rest => some ('"', rest)
  | '\\' :: rest => some ('\\', rest)
  | 'u' :: rest => if rest.length < 4 then none else (codePoint? (rest.take 4)).map (·, rest.drop 4)
  | 'U' :: rest => if rest.length < 8 then none else (codePoint? (rest.take 8)).map (·, rest.drop 8)
  | _ => none

/-- The text behind a line end at the front. -/
def afterNewline? : List Char → Option (List Char)
  | '\n' :: rest => some rest
  | '\r' :: '\n' :: rest => some rest
  | _ => none

/-- The text behind the spaces, tabs and line ends at the front. -/
def dropBlankLines : List Char → List Char
  | '\r' :: '\n' :: rest => dropBlankLines rest
  | c :: rest => if isSpace c || c = '\n' then dropBlankLines rest else c :: rest
  | [] => []

/-- Reads a string of one line behind its opening quotation mark, with the characters so far
newest first. The first number bounds the number of steps. -/
def basicLine? : Nat → List Char → List Char → Option (List Char × List Char)
  | 0, _, _ => none
  | _, _, [] => none
  | n + 1, got, c :: rest =>
    if c = '"' then some (got.reverse, rest)
    else if c = '\\' then (escape? rest).bind fun (e, rest) => basicLine? n (e :: got) rest
    else if isPlain c then basicLine? n (c :: got) rest
    else none

/-- Reads a string of several lines behind its opening quotation marks, with the characters so
far newest first. A backslash at the end of a line joins the next line without its indentation;
up to two quotation marks may stand before the closing ones. The first number bounds the number
of steps. -/
def basicLines? : Nat → List Char → List Char → Option (List Char × List Char)
  | 0, _, _ => none
  | _, _, [] => none
  | n + 1, got, c :: rest =>
    let quotes := ((c :: rest).takeWhile (· = '"')).length
    if 3 ≤ quotes then
      some (got.reverse ++ List.replicate (min quotes 5 - 3) '"', (c :: rest).drop (min quotes 5))
    else if c = '\\' then
      match afterNewline? (rest.dropWhile isSpace) with
      | some rest => basicLines? n got (dropBlankLines rest)
      | none => (escape? rest).bind fun (e, rest) => basicLines? n (e :: got) rest
    else
      match afterNewline? (c :: rest) with
      | some rest => basicLines? n ('\n' :: got) rest
      | none => if isPlain c then basicLines? n (c :: got) rest else none

/-- Reads a string of one line without escapes behind its opening apostrophe. -/
def literalLine? : List Char → List Char → Option (List Char × List Char)
  | _, [] => none
  | got, c :: rest =>
    if c = '\'' then some (got.reverse, rest)
    else if isPlain c then literalLine? (c :: got) rest
    else none

/-- Reads a string of several lines without escapes behind its opening apostrophes, with the
characters so far newest first. -/
def literalLines? (got : List Char) : List Char → Option (List Char × List Char)
  | [] => none
  | '\r' :: '\n' :: rest => literalLines? ('\n' :: got) rest
  | c :: rest =>
    let marks := ((c :: rest).takeWhile (· = '\'')).length
    if 3 ≤ marks then
      some (got.reverse ++ List.replicate (min marks 5 - 3) '\'', (c :: rest).drop (min marks 5))
    else if isPlain c || c = '\n' then literalLines? (c :: got) rest
    else none

/-- Reads a string with escapes; a line end directly behind three opening quotation marks is
left out. -/
def basicString? : List Char → Option (List Char × List Char)
  | '"' :: '"' :: '"' :: rest => basicLines? (rest.length + 1) [] ((afterNewline? rest).getD rest)
  | '"' :: rest => basicLine? (rest.length + 1) [] rest
  | _ => none

/-- Reads a string without escapes; a line end directly behind three opening apostrophes is
left out. -/
def literalString? : List Char → Option (List Char × List Char)
  | '\'' :: '\'' :: '\'' :: rest => literalLines? [] ((afterNewline? rest).getD rest)
  | '\'' :: rest => literalLine? [] rest
  | _ => none

/-- Reads digits with single underscores between them, with those so far newest first. -/
def digits? (isDigit : Char → Bool) (got : List Char) : List Char → Option (List Char × List Char)
  | [] => if got.isEmpty then none else some (got.reverse, [])
  | '_' :: d :: rest =>
    if got.isEmpty || !isDigit d then none else digits? isDigit (d :: got) rest
  | c :: rest =>
    if isDigit c then digits? isDigit (c :: got) rest
    else if got.isEmpty || c = '_' then none
    else some (got.reverse, c :: rest)

/-- The number that decimal digits spell. -/
def decimalNumber (digits : List Char) : Nat :=
  digits.foldl (fun n d => n * 10 + (d.toNat - 48)) 0

/-- The least whole number that does not fit into 64 bits with a sign. -/
def integerLimit : Nat := 1 <<< 63

/-- A decimal number with some digits and a power of ten is at or above the middle between the
largest finite number of double precision and the next power of two. -/
def overflows (mantissa : Nat) (exponent : Int) : Bool :=
  let size : Int := (Nat.toDigits 10 mantissa).length + exponent
  let limit : Nat := (1 <<< 1024) - (1 <<< 970)
  if mantissa = 0 || size < 300 then false
  else if 320 < size then true
  else if 0 ≤ exponent then limit ≤ mantissa * Nat.pow 10 exponent.toNat
  else limit * Nat.pow 10 (-exponent).toNat ≤ mantissa

/-- Reads the whole part of a decimal number: digits without a leading zero. -/
def wholePart? : List Char → Option (List Char × List Char)
  | '0' :: rest => some (['0'], rest)
  | cs => digits? Char.isDigit [] cs

/-- Reads the exponent of a number behind its mark. -/
def exponent? (cs : List Char) : Option (Int × List Char) :=
  let (negative, cs) := match cs with
    | '-' :: rest => (true, rest)
    | '+' :: rest => (false, rest)
    | cs => (false, cs)
  (digits? Char.isDigit [] cs).map fun (digits, rest) =>
    let n : Int := decimalNumber digits
    (if negative then -n else n, rest)

/-- Reads the fraction and the exponent of a number behind its whole part: the digits of the
fraction, the exponent, and the text behind; `none` inside if there is neither. -/
def afterWhole? (cs : List Char) : Option (Option (List Char × Int) × List Char) :=
  let withExponent (fraction : List Char) (cs : List Char) :
      Option (Option (List Char × Int) × List Char) :=
    match cs with
    | c :: rest =>
      if c = 'e' || c = 'E' then (exponent? rest).map fun (e, rest) => (some (fraction, e), rest)
      else some (some (fraction, 0), c :: rest)
    | [] => some (some (fraction, 0), [])
  match cs with
  | '.' :: rest =>
    (digits? Char.isDigit [] rest).bind fun (fraction, rest) => withExponent fraction rest
  | c :: rest => if c = 'e' || c = 'E' then withExponent [] (c :: rest) else some (none, c :: rest)
  | [] => some (none, [])

/-- Reads a decimal number behind its sign. A whole number must fit into 64 bits; a positive
number with a fraction or an exponent must not be too large for double precision. -/
def decimal? (negative : Bool) (cs : List Char) : Option (Value × List Char) :=
  (wholePart? cs).bind fun (whole, rest) =>
    (afterWhole? rest).bind fun (tail, rest) =>
      match tail with
      | none =>
        let n := decimalNumber whole
        if negative then if n ≤ integerLimit then some (.integer (-n), rest) else none
        else if n < integerLimit then some (.integer n, rest) else none
      | some (fraction, exponent) =>
        let mantissa := decimalNumber (whole ++ fraction)
        if !negative && overflows mantissa (exponent - fraction.length) then none
        else some (.float, rest)

/-- Reads a whole number in another base behind its mark. -/
def based? (base : Nat) (cs : List Char) : Option (Value × List Char) :=
  let isDigit (c : Char) : Bool := (hexDigit? c).any (· < base)
  (digits? isDigit [] cs).bind fun (digits, rest) =>
    let n := digits.foldl (fun n d => n * base + (hexDigit? d).getD 0) 0
    if n < integerLimit then some (.integer n, rest) else none

/-- Reads a number. -/
def number? : List Char → Option (Value × List Char)
  | '0' :: 'x' :: rest => based? 16 rest
  | '0' :: 'o' :: rest => based? 8 rest
  | '0' :: 'b' :: rest => based? 2 rest
  | cs =>
    let (negative, cs) := match cs with
      | '-' :: rest => (true, rest)
      | '+' :: rest => (false, rest)
      | cs => (false, cs)
    match cs with
    | 'i' :: 'n' :: 'f' :: rest => some (.float, rest)
    | 'n' :: 'a' :: 'n' :: rest => some (.float, rest)
    | cs => decimal? negative cs

/-- Reads so many decimal digits as a number within bounds. -/
def fixed? (count low high : Nat) (cs : List Char) : Option (Nat × List Char) :=
  let digits := cs.take count
  let n := decimalNumber digits
  if digits.length = count && digits.all Char.isDigit && low ≤ n && n ≤ high then
    some (n, cs.drop count)
  else none

/-- The text behind a character at the front. -/
def after? (c : Char) : List Char → Option (List Char)
  | d :: rest => if d = c then some rest else none
  | [] => none

/-- The number of days of a month. -/
def daysOf (year month : Nat) : Nat :=
  if month = 2 then
    if year % 4 = 0 && (year % 100 ≠ 0 || year % 400 = 0) then 29 else 28
  else if [4, 6, 9, 11].contains month then 30
  else 31

/-- The text behind a date. -/
def afterDate? (cs : List Char) : Option (List Char) := do
  let (year, cs) ← fixed? 4 0 9999 cs
  let cs ← after? '-' cs
  let (month, cs) ← fixed? 2 1 12 cs
  let cs ← after? '-' cs
  let (_, cs) ← fixed? 2 1 (daysOf year month) cs
  pure cs

/-- The text behind the hour and minute of a time. -/
def afterMinutes? (cs : List Char) : Option (List Char) := do
  let (_, cs) ← fixed? 2 0 23 cs
  let cs ← after? ':' cs
  let (_, cs) ← fixed? 2 0 59 cs
  pure cs

/-- The text behind a time; a leap second counts as a second. -/
def afterTime? (cs : List Char) : Option (List Char) := do
  let cs ← afterMinutes? cs
  let cs ← after? ':' cs
  let (_, cs) ← fixed? 2 0 60 cs
  match cs with
  | '.' :: d :: rest => if d.isDigit then pure (rest.dropWhile Char.isDigit) else none
  | '.' :: [] => none
  | cs => pure cs

/-- The text behind an offset from universal time, which may be missing. -/
def afterOffset? : List Char → Option (List Char)
  | c :: rest =>
    if c = 'Z' || c = 'z' then some rest
    else if c = '+' || c = '-' then afterMinutes? rest
    else some (c :: rest)
  | [] => some []

/-- A text begins with so many digits and then a mark. -/
def startsDated (count : Nat) (mark : Char) (cs : List Char) : Bool :=
  (cs.take count).length = count && (cs.take count).all Char.isDigit &&
    (cs.drop count).head? = some mark

/-- Reads a date, a time, or both; `none` inside if the text begins with neither. -/
def datetime? (cs : List Char) : Option (Option (Value × List Char)) :=
  let finish (rest : List Char) : Option (Option (Value × List Char)) :=
    some (some (.datetime (String.ofList (cs.take (cs.length - rest.length))), rest))
  if startsDated 4 '-' cs then
    (afterDate? cs).bind fun rest =>
      match rest with
      | c :: time =>
        if c = 'T' || c = 't' || (c = ' ' && startsDated 2 ':' time) then
          (afterTime? time).bind fun rest => (afterOffset? rest).bind finish
        else finish rest
      | [] => finish []
  else if startsDated 2 ':' cs then (afterTime? cs).bind finish
  else some none

end RedactedBundle.Toml
