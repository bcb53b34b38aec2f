import RedactedBundle.Code.Token

/-!
# Nested tokens

Tokens are grouped by their brackets. A closing bracket matches the nearest open bracket of
its sort; brackets left open inside it stay single tokens, and so does a closing bracket that
matches none. A curly bracket that is still open at the end makes a group that is not closed.

## Main definitions

- `Item`: a token, or a bracketed group
- `Item.ofTokens`: the items of a sequence of tokens
-/

namespace RedactedBundle

/-- The three sorts of brackets. -/
inductive Bracket where
  | round
  | square
  | curly
  deriving Repr, DecidableEq, Inhabited

/-- The sort of bracket a lexeme opens. -/
def Bracket.opened? : Lexeme → Option Bracket
  | .mark '(' => some .round
  | .mark '[' => some .square
  | .mark '{' => some .curly
  | _ => none

/-- The sort of bracket a lexeme closes. -/
def Bracket.closed? : Lexeme → Option Bracket
  | .mark ')' => some .round
  | .mark ']' => some .square
  | .mark '}' => some .curly
  | _ => none

/-- A token, or the items between two brackets; the closing bracket may be missing. -/
inductive Item where
  | token (token : Token)
  | group (bracket : Bracket) (opening : Token) (inner : List Item) (closing : Option Token)
  deriving Repr, Inhabited

namespace Item

/-- The first token of an item. -/
def first : Item → Token
  | token t => t
  | group _ opening _ _ => opening

mutual

/-- The position behind an item. -/
def stop : Item → Nat
  | token t => t.span.stop
  | group _ _ _ (some closing) => closing.span.stop
  | group _ opening inner none => stopOf opening.span.stop inner

/-- The position behind the last item, or a given position if there is none. -/
def stopOf (position : Nat) : List Item → Nat
  | [] => position
  | item :: rest => stopOf item.stop rest

end

/-- The position where an item begins. -/
def start (item : Item) : Nat := item.first.span.start

/-- The lexeme of an item that is a single token. -/
def lexeme? : Item → Option Lexeme
  | token t => some t.lexeme
  | group .. => none

def isMark (c : Char) (item : Item) : Bool := item.lexeme? = some (.mark c)

def isWord (text : String) (item : Item) : Bool := item.lexeme? = some (.word text)

/-- The word of an item that is a single word. -/
def word? (item : Item) : Option String :=
  match item.lexeme? with
  | some (.word text) => some text
  | _ => none

def isGroup (bracket : Bracket) : Item → Bool
  | group b .. => b = bracket
  | token _ => false

/-- A bracket that is open, with the items before it in the enclosing group, newest first. -/
structure Opening where
  bracket : Bracket
  token : Token
  before : List Item

/-- The items of brackets that never close, from the innermost outwards, newest first. -/
def flatten (inner : List Item) : List Opening → List Item
  | [] => inner
  | open1 :: outer => flatten (inner ++ token open1.token :: open1.before) outer

/-- Round and square brackets may only be closed within the nearest curly bracket. -/
def Bracket.closes (bracket : Bracket) :
    List Opening → Option (List Opening × Opening × List Opening)
  | [] => none
  | open1 :: outer =>
    if open1.bracket = bracket then some ([], open1, outer)
    else if open1.bracket = .curly then none
    else (closes bracket outer).map fun (skipped, found, rest) => (open1 :: skipped, found, rest)

/-- Adds a token to the items read so far, newest first, inside the brackets that are open,
innermost first. -/
def push (state : List Item × List Opening) (t : Token) : List Item × List Opening :=
  let (items, openings) := state
  match Bracket.opened? t.lexeme, Bracket.closed? t.lexeme with
  | some bracket, _ => ([], ⟨bracket, t, items⟩ :: openings)
  | none, none => (token t :: items, openings)
  | none, some bracket =>
    match Bracket.closes bracket openings with
    | none => (token t :: items, openings)
    | some (skipped, found, outer) =>
      (group bracket found.token (flatten items skipped).reverse (some t) :: found.before, outer)

/-- Ends the brackets that are still open. -/
def finish (items : List Item) : List Opening → List Item
  | [] => items.reverse
  | ⟨.curly, t, before⟩ :: outer => finish (group .curly t items.reverse none :: before) outer
  | ⟨_, t, before⟩ :: outer => finish (items ++ token t :: before) outer

/-- The items of a sequence of tokens. -/
def ofTokens (tokens : List Token) : List Item :=
  let (items, openings) := tokens.foldl push ([], [])
  finish items openings

end Item

end RedactedBundle
