import RedactedBundle.Text.Identifier
import RedactedBundle.Text.Slice

/-!
# Tokens of C# text

Text is cut into words, literals and marks. White space separates tokens and is dropped;
comments and directives are kept with the token that follows them. Whatever the text is, every
character belongs to a token, to a comment or directive, or to white space.

## Main definitions

- `Lexeme`: what a token is
- `Token`: a lexeme with its place and the comments before it
- `Token.ofText`: the tokens of a text
-/

namespace RedactedBundle

/-- What a token is, as far as declarations can tell. -/
inductive Lexeme where
  /-- An identifier or keyword as it is written. -/
  | word (text : String)
  /-- A string, character or number. -/
  | literal
  /-- The arrow `=>` in front of an expression body. -/
  | arrow
  /-- The mark `::` between an alias and a name. -/
  | doubleColon
  /-- Any other character. -/
  | mark (c : Char)
  deriving Repr, DecidableEq, Inhabited

/-- A lexeme with its place in the text, and the places of the comments and directives
between the token before it and itself. -/
structure Token where
  lexeme : Lexeme
  span : Span
  extras : List Span
  deriving Repr, Inhabited

namespace Literal

/-- How the text of a string literal ends and what it escapes. -/
inductive Quoting where
  /-- Ends at a quotation mark or at the end of the line; a backslash escapes. -/
  | escaped
  /-- Ends at a quotation mark that is not doubled. -/
  | verbatim
  /-- Ends at a run of at least this many quotation marks. -/
  | raw (quotes : Nat)
  deriving Repr

/-- What is open inside a literal: text with holes opened by so many braces, none if zero; or
a hole, closed by so many braces, with so many brackets open in it. -/
inductive Frame where
  | text (quoting : Quoting) (holes : Nat)
  | hole (braces brackets : Nat)
  deriving Repr

/-- The number of times a text starts with a character. -/
def runLength (c : Char) (cs : List Char) : Nat := (cs.takeWhile (· = c)).length

/-- The frame of a string literal that starts here and the text behind its opening mark:
dollar signs and at most one at sign, in either order, then quotation marks. -/
def opening? (cs : List Char) : Option (Frame × List Char) :=
  let at1 := cs.head? = some '@'
  let cs1 := if at1 then cs.drop 1 else cs
  let dollars := runLength '$' cs1
  let cs2 := cs1.drop dollars
  let at2 := !at1 && cs2.head? = some '@'
  let cs3 := if at2 then cs2.drop 1 else cs2
  let quotes := runLength '"' cs3
  if quotes = 0 then none
  else if at1 || at2 then some (.text .verbatim dollars, cs3.drop 1)
  else if quotes ≥ 3 then some (.text (.raw quotes) dollars, cs3.drop quotes)
  else some (.text .escaped dollars, cs3.drop 1)

/-- The text behind a character literal that starts here, if one does. -/
def afterCharacter? : List Char → Option (List Char)
  | '\'' :: '\\' :: _ :: rest =>
    match rest.dropWhile fun c => c ≠ '\'' && c ≠ '\n' with
    | '\'' :: after => some after
    | _ => none
  | '\'' :: _ :: '\'' :: rest => some rest
  | _ => none

/-- The text behind a block comment, given the text behind its opening mark. -/
def afterBlockComment : List Char → List Char
  | '*' :: '/' :: rest => rest
  | _ :: rest => afterBlockComment rest
  | [] => []

/-- The text from the end of the line on. -/
def toLineEnd (cs : List Char) : List Char :=
  cs.dropWhile fun c => c ≠ '\n' && c ≠ '\r'

/-- One step inside the text of a literal: the frames and the rest after it. -/
def stepText (quoting : Quoting) (holes : Nat) (outer : List Frame) (cs : List Char) :
    List Frame × List Char :=
  let stay := Frame.text quoting holes :: outer
  let braces := runLength '{' cs
  match quoting, cs with
  | _, [] => ([], [])
  | .escaped, '\\' :: _ :: rest => (stay, rest)
  | .escaped, '\n' :: rest => (outer, '\n' :: rest)
  | .escaped, '"' :: rest => (outer, rest)
  | .verbatim, '"' :: '"' :: rest => (stay, rest)
  | .verbatim, '"' :: rest => (outer, rest)
  | .raw quotes, c :: rest =>
    let run := runLength '"' cs
    if quotes ≤ run then (outer, cs.drop run)
    else if 0 < run then (stay, cs.drop run)
    else if 0 < holes && holes ≤ braces then (.hole holes 0 :: stay, cs.drop braces)
    else if c = '{' then (stay, cs.drop braces)
    else (stay, rest)
  | _, c :: rest =>
    if c = '{' && 0 < holes then
      if braces % 2 = 0 then (stay, cs.drop braces) else (.hole 1 0 :: stay, cs.drop braces)
    else (stay, rest)

/-- One step inside a hole of a literal: the frames and the rest after it. -/
def stepHole (braces brackets : Nat) (outer : List Frame) (cs : List Char) :
    List Frame × List Char :=
  let stay := Frame.hole braces brackets :: outer
  match opening? cs, afterCharacter? cs with
  | some (frame, rest), _ => (frame :: stay, rest)
  | none, some rest => (stay, rest)
  | none, none =>
    match cs with
    | [] => ([], [])
    | '/' :: '/' :: rest => (stay, toLineEnd rest)
    | '/' :: '*' :: rest => (stay, afterBlockComment rest)
    | c :: rest =>
      if c = '{' || c = '(' || c = '[' then (.hole braces (brackets + 1) :: outer, rest)
      else if c = '}' && brackets = 0 then (outer, cs.drop braces)
      else if c = '}' || c = ')' || c = ']' then (.hole braces (brackets - 1) :: outer, rest)
      else (stay, rest)

/-- The text behind a literal in which the given frames are open, innermost first. The first
number bounds the number of steps. -/
def close : Nat → List Frame → List Char → List Char
  | 0, _, cs => cs
  | _, [], cs => cs
  | n + 1, .text quoting holes :: outer, cs =>
    let (frames, rest) := stepText quoting holes outer cs
    close n frames rest
  | n + 1, .hole braces brackets :: outer, cs =>
    let (frames, rest) := stepHole braces brackets outer cs
    close n frames rest

/-- The text behind a string literal that starts here, if one does. -/
def afterString? (cs : List Char) : Option (List Char) :=
  (opening? cs).map fun (frame, rest) => close (rest.length + 2) [frame] rest

end Literal

/-- What stands at the front of a text. -/
inductive Scanned where
  | blank
  /-- A comment or a directive. -/
  | extra
  | token (lexeme : Lexeme)
  deriving Repr

namespace Scanned

/-- The characters that separate tokens. -/
def isSpace (c : Char) : Bool :=
  c = ' ' || c = '\t' || c = '\n' || c = '\r' || c = '\x0b' || c = '\x0c' ||
    c = '\u00a0' || c = '\u3000' || c = '\ufeff'

/-- The number of characters of an identifier behind its first character, counting each
escape of a code point as its characters. -/
def wordTail : List Char → Nat
  | '\\' :: 'u' :: rest => 2 + wordTail rest
  | '\\' :: 'U' :: rest => 2 + wordTail rest
  | c :: rest => if Text.isIdentifierContinue c then 1 + wordTail rest else 0
  | [] => 0

/-- The number of characters of the identifier or keyword at the front; zero if none. -/
def wordLength : List Char → Nat
  | '\\' :: 'u' :: rest => 2 + wordTail rest
  | '\\' :: 'U' :: rest => 2 + wordTail rest
  | '@' :: c :: rest =>
    if Text.isIdentifierStart c || (c = '\\' && rest.head? = some 'u') then 1 + wordTail (c :: rest)
    else 0
  | c :: rest => if Text.isIdentifierStart c then 1 + wordTail rest else 0
  | [] => 0

/-- The number of characters of a number behind its first digit. -/
def numberTail : List Char → Nat
  | '.' :: d :: rest => if d.isDigit then 2 + numberTail rest else 0
  | c :: rest => if Text.isIdentifierContinue c then 1 + numberTail rest else 0
  | [] => 0

/-- What stands at the front of a text that is not empty, and how many characters it takes;
`lineStart` tells that only white space precedes it on its line. -/
def next (lineStart : Bool) (cs : List Char) : Scanned × Nat :=
  let upTo (rest : List Char) : Nat := cs.length - rest.length
  match Literal.afterString? cs, Literal.afterCharacter? cs with
  | some rest, _ => (.token .literal, upTo rest)
  | none, some rest => (.token .literal, upTo rest)
  | none, none =>
    match cs with
    | [] => (.blank, 0)
    | '/' :: '/' :: rest => (.extra, upTo (Literal.toLineEnd rest))
    | '/' :: '*' :: rest => (.extra, upTo (Literal.afterBlockComment rest))
    | '=' :: '>' :: _ => (.token .arrow, 2)
    | ':' :: ':' :: _ => (.token .doubleColon, 2)
    | c :: rest =>
      if isSpace c then (.blank, 1)
      else if c = '#' && lineStart then (.extra, upTo (Literal.toLineEnd rest))
      else if c.isDigit then (.token .literal, 1 + numberTail rest)
      else
        let n := wordLength cs
        if n = 0 then (.token (.mark c), 1)
        else (.token (.word (String.ofList (cs.take n))), n)

end Scanned

namespace Token

/-- The tokens of a text that starts at a byte position, with the comments met since the last
token. The first number bounds the number of steps. -/
def scan : Nat → Nat → Bool → List Span → List Char → List Token
  | 0, _, _, _, _ => []
  | _, _, _, _, [] => []
  | n + 1, position, lineStart, extras, c :: cs =>
    let (scanned, length) := Scanned.next lineStart (c :: cs)
    let taken := (c :: cs).take (max length 1)
    let rest := (c :: cs).drop (max length 1)
    let stop := position + Text.byteLength taken
    match scanned with
    | .blank => scan n stop (lineStart || c = '\n' || c = '\r') extras rest
    | .extra => scan n stop false (extras ++ [⟨position, stop⟩]) rest
    | .token lexeme =>
      { lexeme, span := ⟨position, stop⟩, extras : Token } :: scan n stop false [] rest

/-- The tokens of a text. -/
def ofText (cs : List Char) : List Token := scan cs.length 0 true [] cs

end Token

end RedactedBundle
