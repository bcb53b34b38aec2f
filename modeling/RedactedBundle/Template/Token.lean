import RedactedBundle.Text.Blank

/-!
# Pieces and tokens of templates

A template is cut into text, output tags in double braces and block tags in braces with percent
signs; comments are dropped. White space around tags is dropped as the tags ask for: a hyphen
in a tag drops all of it on that side. Without one, a block tag or comment drops the white space
in front of it on its line if nothing else stands there, and the line end directly behind it.

## Main definitions

- `Token`: a token inside a tag
- `Segment`: a piece of a template
- `Segment.ofText?`: the pieces of a template
-/

namespace RedactedBundle.Template

/-- A token inside a tag. -/
inductive Token where
  | word (text : String)
  | string (text : String)
  | integer (n : Nat)
  | float (mantissa : Nat) (exponent : Int)
  | mark (text : String)
  deriving Repr, DecidableEq, Inhabited

/-- A piece of a template. -/
inductive Segment where
  | text (cs : List Char)
  | output (tokens : List Token)
  | block (tokens : List Token)
  deriving Repr, DecidableEq, Inhabited

/-- What a tag asks for on one of its sides. -/
inductive Space where
  | usual
  | dropped
  | kept
  deriving Repr, DecidableEq, Inhabited

/-- What the mark at the edge of a tag asks for, and the text behind the mark. -/
def Space.read : List Char → Space × List Char
  | '-' :: rest => (.dropped, rest)
  | '+' :: rest => (.kept, rest)
  | cs => (.usual, cs)

namespace Token

def isSpace (c : Char) : Bool := c = ' ' || c = '\t' || c = '\n' || c = '\r' || c = '\x0c'

def isWordStart (c : Char) : Bool := c.isAlpha || c = '_'

/-- The value of a hexadecimal digit, zero for any other character. -/
def hexDigit (c : Char) : Nat :=
  if c.isDigit then c.toNat - 48
  else if 'a' ≤ c && c ≤ 'f' then c.toNat - 87
  else if 'A' ≤ c && c ≤ 'F' then c.toNat - 55
  else 0

/-- The text of a string behind its opening mark, newest character first, and what follows the
closing mark. The first number bounds the number of characters. -/
def stringTail? (close : Char) : Nat → List Char → List Char → Option (List Char × List Char)
  | 0, _, _ => none
  | _, _, [] => none
  | n + 1, got, c :: rest =>
    if c = close then some (got.reverse, rest)
    else if c = '\\' then
      match rest with
      | [] => none
      | e :: rest =>
        if e = 'u' then
          if rest.length < 4 then none
          else
            let code := (rest.take 4).foldl (fun n d => n * 16 + hexDigit d) 0
            stringTail? close n (Char.ofNat code :: got) (rest.drop 4)
        else
          let plain : Option Char :=
            if e = '"' || e = '\\' || e = '/' || e = '\'' then some e
            else if e = 'b' then some '\x08'
            else if e = 'f' then some '\x0c'
            else if e = 'n' then some '\n'
            else if e = 'r' then some '\r'
            else if e = 't' then some '\t'
            else none
          plain.bind fun p => stringTail? close n (p :: got) rest
    else stringTail? close n (c :: got) rest

/-- The number that decimal digits spell. -/
def decimal (digits : List Char) : Nat :=
  digits.foldl (fun n d => n * 10 + (d.toNat - 48)) 0

/-- Reads a number at the front of a text that begins with a digit. -/
def number? (cs : List Char) : Option (Token × List Char) :=
  let whole := cs.takeWhile Char.isDigit
  let rest := cs.drop whole.length
  let (point, fraction, rest) := match rest with
    | '.' :: rest =>
      let fraction := rest.takeWhile Char.isDigit
      (true, fraction, rest.drop fraction.length)
    | rest => (false, [], rest)
  let mantissa := decimal (whole ++ fraction)
  match rest with
  | e :: rest' =>
    if e = 'e' || e = 'E' then
      let (negative, digits) := match rest' with
        | '-' :: more => (true, more)
        | '+' :: more => (false, more)
        | more => (false, more)
      let exponent := digits.takeWhile Char.isDigit
      if exponent.isEmpty then none
      else
        let n : Int := decimal exponent
        some (.float mantissa ((if negative then -n else n) - fraction.length),
          digits.drop exponent.length)
    else if point then some (.float mantissa (-fraction.length), rest)
    else if mantissa < 1 <<< 128 then some (.integer mantissa, rest)
    else none
  | [] =>
    if point then some (.float mantissa (-fraction.length), [])
    else if mantissa < 1 <<< 128 then some (.integer mantissa, [])
    else none

/-- Reads one token at the front of a text that begins with no white space. -/
def read? (cs : List Char) : Option (Token × List Char) :=
  match cs with
  | [] => none
  | '/' :: '/' :: rest => some (.mark "//", rest)
  | '*' :: '*' :: rest => some (.mark "**", rest)
  | '=' :: '=' :: rest => some (.mark "==", rest)
  | '!' :: '=' :: rest => some (.mark "!=", rest)
  | '>' :: '=' :: rest => some (.mark ">=", rest)
  | '<' :: '=' :: rest => some (.mark "<=", rest)
  | c :: rest =>
    if c = '"' || c = '\'' then
      (stringTail? c (rest.length + 1) [] rest).map fun (s, rest) =>
        (.string (String.ofList s), rest)
    else if c.isDigit then number? (c :: rest)
    else if isWordStart c then
      let word := (c :: rest).takeWhile fun c => c.isAlphanum || c = '_'
      some (.word (String.ofList word), (c :: rest).drop word.length)
    else if "+-*/%.,:~|=><()[]\x7b\x7d".toList.contains c then some (.mark c.toString, rest)
    else none

/-- Reads the tokens of a tag up to its closing mark, those so far newest first: the tokens,
what the tag asks for behind it, and the text behind it. The first number bounds the number of
steps. -/
def tag? (close : List Char) : Nat → List Token → List Char →
    Option (List Token × Space × List Char)
  | 0, _, _ => none
  | n + 1, got, cs =>
    match cs with
    | [] => none
    | c :: rest =>
      if isSpace c then tag? close n got rest
      else if close.isPrefixOf (c :: rest) then
        some (got.reverse, .usual, (c :: rest).drop close.length)
      else if c = '-' && close.isPrefixOf rest then
        some (got.reverse, .dropped, rest.drop close.length)
      else if c = '+' && close = ['%', '\x7d'] && close.isPrefixOf rest then
        some (got.reverse, .kept, rest.drop close.length)
      else (read? (c :: rest)).bind fun (t, rest) => tag? close n (t :: got) rest

end Token

namespace Segment

/-- The closing marks of tags. -/
def outputClose : List Char := ['\x7d', '\x7d']

@[inherit_doc outputClose]
def blockClose : List Char := ['%', '\x7d']

@[inherit_doc outputClose]
def commentClose : List Char := ['#', '\x7d']

/-- The text up to the first tag or comment, and the tag from its brace on. -/
def splitTag : List Char → List Char × List Char
  | [] => ([], [])
  | c :: rest =>
    if c = '\x7b' && (rest.head? = some '\x7b' || rest.head? = some '%' || rest.head? = some '#') then
      ([], c :: rest)
    else
      let (before, tag) := splitTag rest
      (c :: before, tag)

/-- The text behind a comment, and what it asks for there, given the text behind its opening
mark. -/
def afterComment? (before : Option Char) : List Char → Option (Space × List Char)
  | [] => none
  | c :: rest =>
    if commentClose.isPrefixOf (c :: rest) then
      some (if before = some '-' then .dropped else if before = some '+' then .kept else .usual,
        rest.drop 1)
    else afterComment? (some c) rest

/-- The text behind a line end at the front, if there is one. -/
def dropLineEnd (cs : List Char) : List Char :=
  let cs := if cs.head? = some '\r' then cs.drop 1 else cs
  if cs.head? = some '\n' then cs.drop 1 else cs

/-- The text behind a block tag that holds nothing but a word, given the text behind its
opening mark, and what the tag asks for there. -/
def afterBareTag? (word : List Char) (cs : List Char) : Option (Space × List Char) :=
  let cs := (Space.read cs).2.dropWhile Token.isSpace
  if word.isPrefixOf cs then
    let (space, rest) := Space.read ((cs.drop word.length).dropWhile Token.isSpace)
    if blockClose.isPrefixOf rest then some (space, rest.drop 2) else none
  else none

/-- The white space at the end of a text is all that stands on its line; `bol` tells whether the
text itself begins a line. -/
def endsOnBlankLine (bol : Bool) (cs : List Char) : Bool :=
  match cs.reverse.dropWhile fun c => Text.isWhite c && c ≠ '\n' && c ≠ '\r' with
  | [] => bol
  | c :: _ => c = '\n' || c = '\r'

/-- The text without the white space at the end of its last line. -/
def dropIndent (cs : List Char) : List Char :=
  (cs.reverse.dropWhile fun c => Text.isWhite c && c ≠ '\n' && c ≠ '\r').reverse

/-- The text in front of a tag, with what the tag asks for dropped; `block` tells that the tag
is no output, `bol` that the text begins a line. -/
def leading (lstripBlocks bol block : Bool) (space : Space) (cs : List Char) : List Char :=
  match space with
  | .dropped => Text.trimEnd cs
  | .usual => if lstripBlocks && block && endsOnBlankLine bol cs then dropIndent cs else cs
  | .kept => cs

/-- The text before the closing tag of verbatim text, what the tag asks for in front of it and
behind it, and the text behind it. -/
def verbatim? (got : List Char) : List Char → Option (List Char × Space × Space × List Char)
  | [] => none
  | c :: rest =>
    let closing : Option (Space × List Char) :=
      if c = '\x7b' && rest.head? = some '%' then afterBareTag? "endraw".toList (rest.drop 1) else none
    match closing with
    | some (after, tail) => some (got.reverse, (Space.read (rest.drop 1)).1, after, tail)
    | none => verbatim? (c :: got) rest

/-- A piece of text, unless it is empty. -/
def ofChars (cs : List Char) : List Segment := if cs.isEmpty then [] else [text cs]

/-- The text behind a tag, with what the tag asks for dropped, but for white space that is to
be dropped before the next piece of text. -/
def following (trimBlocks : Bool) (space : Space) (cs : List Char) : List Char :=
  if trimBlocks && space = .usual then dropLineEnd cs else cs

/-- The pieces of a template from the current text on; `trim` tells that white space at its
start is to be dropped, `bol` that it begins a line. If nothing else is asked for, `trimBlocks`
drops the line end behind a block tag, and `lstripBlocks` the indent in front of it. The first
number bounds the number of tags. -/
def scan? (trimBlocks lstripBlocks : Bool) :
    Nat → Bool → Bool → List Char → Option (List Segment)
  | 0, _, _, _ => none
  | n + 1, trim, bol, cs =>
    let (raw, tag) := splitTag cs
    let shown (block : Bool) (space : Space) : List Segment :=
      let lead := leading lstripBlocks bol block space raw
      ofChars (if trim then Text.trimStart lead else lead)
    let lineEnds (space : Space) (rest : List Char) : Bool :=
      trimBlocks && space = .usual && (rest.head? = some '\n' || rest.head? = some '\r')
    let next (space : Space) (rest : List Char) : Option (List Segment) :=
      scan? trimBlocks lstripBlocks n (space = .dropped) (lineEnds space rest)
        (following trimBlocks space rest)
    match tag with
    | [] => some (ofChars (if trim then Text.trimStart raw else raw))
    | _ :: '#' :: inner =>
      let (before, _) := Space.read inner
      (afterComment? none inner).bind fun (after, rest) =>
        (next after rest).map
          (shown true before ++ ·)
    | _ :: '%' :: inner =>
      let (before, content) := Space.read inner
      match afterBareTag? "raw".toList inner with
      | some (start, body) =>
        (verbatim? [] body).bind fun (body, before', after, rest) =>
          let body := match before' with
            | .dropped => Text.trimEnd body
            | .usual =>
              if lstripBlocks && endsOnBlankLine true body then dropIndent body else body
            | .kept => body
          let body := match start with
            | .dropped => Text.trimStart body
            | .usual => if trimBlocks then dropLineEnd body else body
            | .kept => body
          (next after rest).map
            (shown true before ++ ofChars body ++ ·)
      | none =>
        (Token.tag? blockClose (content.length + 1) [] content).bind fun (tokens, after, rest) =>
          (next after rest).map
            (shown true before ++ block tokens :: ·)
    | _ :: _ :: inner =>
      let (before, content) := Space.read inner
      (Token.tag? outputClose (content.length + 1) [] content).bind fun (tokens, after, rest) =>
        (scan? trimBlocks lstripBlocks n (after = .dropped) false rest).map
          (shown false before ++ output tokens :: ·)
    | [_] => none

/-- The template without one line end at its end. -/
def dropFinalLineEnd (cs : List Char) : List Char :=
  match cs.reverse with
  | '\n' :: '\r' :: rest => rest.reverse
  | '\n' :: rest => rest.reverse
  | _ => cs

/-- The pieces of a template. -/
def ofText? (trimBlocks lstripBlocks : Bool) (source : String) : Option (List Segment) :=
  let cs := dropFinalLineEnd source.toList
  scan? trimBlocks lstripBlocks (cs.length + 1) false true cs

end Segment

end RedactedBundle.Template
