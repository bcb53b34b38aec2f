import RedactedBundle.Template.Token
import RedactedBundle.Template.Value

/-!
# Expressions of templates

The expressions inside tags, read from tokens by the ranks of their operators.

## Main definitions

- `Expr`: an expression
- `Expr.read?`: the expression at the front of some tokens
-/

namespace RedactedBundle.Template

/-- An expression. Arguments come in two lists of one length, their names, of which positional
ones have none, and their values. -/
inductive Expr where
  | value (v : Value)
  | variable (name : String)
  | attribute (e : Expr) (name : String)
  | item (e index : Expr)
  /-- A part of a sequence; a bound that is left out is the value `none`. -/
  | slice (e start stop step : Expr)
  | not (e : Expr)
  | negate (e : Expr)
  | and (a b : Expr)
  | or (a b : Expr)
  | binary (op : Operator) (a b : Expr)
  | choice (test yes no : Expr)
  | filter (name : String) (e : Expr) (names : List (Option String)) (args : List Expr)
  | test (name : String) (e : Expr) (names : List (Option String)) (args : List Expr)
  | call (e : Expr) (names : List (Option String)) (args : List Expr)
  | list (elements : List Expr)
  | map (keys values : List Expr)
  deriving Inhabited

namespace Expr

/-- A token is a certain word. -/
def isWord (text : String) (tokens : List Token) : Bool := tokens.head? = some (.word text)

/-- A token is a certain mark. -/
def isMark (text : String) (tokens : List Token) : Bool := tokens.head? = some (.mark text)

/-- The tokens behind a certain mark. -/
def afterMark? (text : String) : List Token → Option (List Token)
  | .mark other :: rest => if other = text then some rest else none
  | _ => none

/-- The operator of a rank at the front of some tokens: how it combines two expressions, and the
tokens behind it. Rank 0 is the weakest; rank 2 is for negation. -/
def operator? (rank : Nat) (tokens : List Token) : Option ((Expr → Expr → Expr) × List Token) :=
  match rank, tokens with
  | 0, .word "or" :: rest => some (or, rest)
  | 1, .word "and" :: rest => some (and, rest)
  | 3, .mark "==" :: rest => some (binary .eq, rest)
  | 3, .mark "!=" :: rest => some (binary .ne, rest)
  | 3, .mark "<" :: rest => some (binary .lt, rest)
  | 3, .mark "<=" :: rest => some (binary .le, rest)
  | 3, .mark ">" :: rest => some (binary .gt, rest)
  | 3, .mark ">=" :: rest => some (binary .ge, rest)
  | 3, .word "in" :: rest => some (binary .contained, rest)
  | 3, .word "not" :: .word "in" :: rest => some (fun a b => not (binary .contained a b), rest)
  | 4, .mark "+" :: rest => some (binary .add, rest)
  | 4, .mark "-" :: rest => some (binary .sub, rest)
  | 5, .mark "~" :: rest => some (binary .concat, rest)
  | 6, .mark "*" :: rest => some (binary .mul, rest)
  | 6, .mark "/" :: rest => some (binary .div, rest)
  | 6, .mark "//" :: rest => some (binary .floorDiv, rest)
  | 6, .mark "%" :: rest => some (binary .rem, rest)
  | 7, .mark "**" :: rest => some (binary .pow, rest)
  | _, _ => none

/-- The rank above those of all operators. -/
def topRank : Nat := 8

/-- The value that a word stands for by itself. -/
def constant? (word : String) : Option Value :=
  if word = "true" || word = "True" then some (.boolean true)
  else if word = "false" || word = "False" then some (.boolean false)
  else if word = "none" || word = "None" then some .none
  else none

/-- A token can begin the only argument of a test without parentheses. -/
def beginsArgument : List Token → Bool
  | .word text :: _ => !(["and", "or", "else", "is", "if"].contains text)
  | .string _ :: _ => true
  | .integer _ :: _ => true
  | .float _ _ :: _ => true
  | .mark text :: _ => text = "+" || text = "-" || text = "["
  | [] => false

mutual

/-- Reads an expression. The first number bounds the number of steps. -/
def full? : Nat → List Token → Option (Expr × List Token)
  | 0, _ => none
  | n + 1, tokens => (binary? n 0 tokens).bind fun (e, rest) => choices? n e rest

/-- Reads the choices behind an expression. -/
def choices? : Nat → Expr → List Token → Option (Expr × List Token)
  | 0, _, _ => none
  | n + 1, e, tokens =>
    if isWord "if" tokens then
      (binary? n 0 (tokens.drop 1)).bind fun (condition, rest) =>
        if isWord "else" rest then
          (full? n (rest.drop 1)).bind fun (no, rest) => choices? n (choice condition e no) rest
        else choices? n (choice condition e (value .undefined)) rest
    else some (e, tokens)

/-- Reads an expression whose operators have at least a rank. -/
def binary? : Nat → Nat → List Token → Option (Expr × List Token)
  | 0, _, _ => none
  | n + 1, rank, tokens =>
    if topRank ≤ rank then unary? n tokens
    else if rank = 2 then
      if isWord "not" tokens then (binary? n 2 (tokens.drop 1)).map fun (e, rest) => (not e, rest)
      else binary? n 3 tokens
    else (binary? n (rank + 1) tokens).bind fun (e, rest) => chain? n rank e rest

/-- Reads the operators of a rank behind an expression with their right sides. -/
def chain? : Nat → Nat → Expr → List Token → Option (Expr × List Token)
  | 0, _, _, _ => none
  | n + 1, rank, e, tokens =>
    match operator? rank tokens with
    | some (combine, rest) =>
      (binary? n (rank + 1) rest).bind fun (right, rest) => chain? n rank (combine e right) rest
    | none => some (e, tokens)

/-- Reads an expression without binary operators. -/
def unary? : Nat → List Token → Option (Expr × List Token)
  | 0, _ => none
  | n + 1, tokens =>
    (signed? n tokens).bind fun (e, rest) =>
      (trailing? n e rest).bind fun (e, rest) => filters? n e rest

/-- Reads a simple expression with signs in front of it. -/
def signed? : Nat → List Token → Option (Expr × List Token)
  | 0, _ => none
  | n + 1, tokens =>
    if isMark "-" tokens then (signed? n (tokens.drop 1)).map fun (e, rest) => (negate e, rest)
    else primary? n tokens

/-- Reads a name, a literal, or an expression in brackets. -/
def primary? : Nat → List Token → Option (Expr × List Token)
  | 0, _ => none
  | n + 1, tokens =>
    match tokens with
    | .word text :: rest =>
      some (match constant? text with
        | some v => value v
        | none => .variable text, rest)
    | .string text :: rest => some (value (.string text), rest)
    | .integer k :: rest => some (value (.integer k), rest)
    | .float mantissa exponent :: rest =>
      some (value (.float (Float.ofScientific mantissa (exponent < 0) exponent.natAbs)), rest)
    | .mark "(" :: rest => parens? n false [] rest
    | .mark "[" :: rest => (elements? n "]" [] rest).map fun (es, rest) => (list es, rest)
    | .mark "\x7b" :: rest => entries? n [] [] rest
    | _ => none

/-- Reads an expression or a tuple behind an opening parenthesis, with the elements so far newest
first; `tuple` tells that a comma has been read. -/
def parens? : Nat → Bool → List Expr → List Token → Option (Expr × List Token)
  | 0, _, _, _ => none
  | n + 1, tuple, got, tokens =>
    if isMark ")" tokens && (tuple || got.isEmpty) then some (list got.reverse, tokens.drop 1)
    else
      (full? n tokens).bind fun (e, rest) =>
        match rest with
        | .mark "," :: rest => parens? n true (e :: got) rest
        | .mark ")" :: rest => some (if tuple then list (e :: got).reverse else e, rest)
        | _ => none

/-- Reads expressions up to a closing mark, those so far newest first; a comma may stand behind
the last. -/
def elements? : Nat → String → List Expr → List Token → Option (List Expr × List Token)
  | 0, _, _, _ => none
  | n + 1, close, got, tokens =>
    if isMark close tokens then some (got.reverse, tokens.drop 1)
    else
      (full? n tokens).bind fun (e, rest) =>
        match rest with
        | .mark mark :: rest =>
          if mark = "," then elements? n close (e :: got) rest
          else if mark = close then some ((e :: got).reverse, rest)
          else none
        | _ => none

/-- Reads the entries of a map behind its opening brace, those so far newest first. -/
def entries? : Nat → List Expr → List Expr → List Token → Option (Expr × List Token)
  | 0, _, _, _ => none
  | n + 1, keys, values, tokens =>
    if isMark "\x7d" tokens then some (map keys.reverse values.reverse, tokens.drop 1)
    else
      (full? n tokens).bind fun (key, rest) =>
        (afterMark? ":" rest).bind fun rest =>
          (full? n rest).bind fun (v, rest) =>
            match rest with
            | .mark mark :: rest =>
              if mark = "," then entries? n (key :: keys) (v :: values) rest
              else if mark = "\x7d" then some (map (key :: keys).reverse (v :: values).reverse, rest)
              else none
            | _ => none

/-- Reads arguments behind an opening parenthesis, those so far newest first. Named arguments come
behind positional ones. -/
def arguments? : Nat → List (Option String) → List Expr → List Token →
    Option (List (Option String) × List Expr × List Token)
  | 0, _, _, _ => none
  | n + 1, names, args, tokens =>
    if isMark ")" tokens then some (names.reverse, args.reverse, tokens.drop 1)
    else
      let (name, tokens) : Option String × List Token := match tokens with
        | .word name :: .mark "=" :: rest => (some name, rest)
        | tokens => (none, tokens)
      if name.isNone && names.any Option.isSome then none
      else
        (full? n tokens).bind fun (e, rest) =>
          match rest with
          | .mark "," :: rest => arguments? n (name :: names) (e :: args) rest
          | .mark ")" :: rest => some ((name :: names).reverse, (e :: args).reverse, rest)
          | _ => none

/-- Reads the attributes, indices and calls behind an expression. -/
def trailing? : Nat → Expr → List Token → Option (Expr × List Token)
  | 0, _, _ => none
  | n + 1, e, tokens =>
    match tokens with
    | .mark "." :: .word name :: rest => trailing? n (.attribute e name) rest
    | .mark "." :: _ => none
    | .mark "[" :: rest => (subscript? n e rest).bind fun (e, rest) => trailing? n e rest
    | .mark "(" :: rest =>
      (arguments? n [] [] rest).bind fun (names, args, rest) => trailing? n (call e names args) rest
    | tokens => some (e, tokens)

/-- Reads an index or the bounds of a slice behind an opening bracket. -/
def subscript? : Nat → Expr → List Token → Option (Expr × List Token)
  | 0, _, _ => none
  | n + 1, e, tokens =>
    (bound? n tokens).bind fun (start, rest) =>
      match rest with
      | .mark "]" :: rest => start.map fun start => (item e start, rest)
      | .mark ":" :: rest =>
        (bound? n rest).bind fun (stop, rest) =>
          let finish (step : Option Expr) : List Token → Option (Expr × List Token)
            | .mark "]" :: rest =>
              some (slice e (start.getD (value .none)) (stop.getD (value .none))
                (step.getD (value .none)), rest)
            | _ => none
          match rest with
          | .mark ":" :: rest => (bound? n rest).bind fun (step, rest) => finish step rest
          | rest => finish none rest
      | _ => none

/-- Reads a bound of a slice, which may be left out. -/
def bound? : Nat → List Token → Option (Option Expr × List Token)
  | 0, _ => none
  | n + 1, tokens =>
    if isMark ":" tokens || isMark "]" tokens then some (none, tokens)
    else (full? n tokens).map fun (e, rest) => (some e, rest)

/-- Reads the filters and tests behind an expression. -/
def filters? : Nat → Expr → List Token → Option (Expr × List Token)
  | 0, _, _ => none
  | n + 1, e, tokens =>
    match tokens with
    | .mark "|" :: .word name :: .mark "(" :: rest =>
      (arguments? n [] [] rest).bind fun (names, args, rest) =>
        filters? n (filter name e names args) rest
    | .mark "|" :: .word name :: rest => filters? n (filter name e [] []) rest
    | .mark "|" :: _ => none
    | .word "is" :: rest =>
      let (negated, rest) := if isWord "not" rest then (true, rest.drop 1) else (false, rest)
      let finish (e : Expr) : Expr := if negated then not e else e
      match rest with
      | .word name :: .mark "(" :: rest =>
        (arguments? n [] [] rest).bind fun (names, args, rest) =>
          filters? n (finish (test name e names args)) rest
      | .word name :: rest =>
        if beginsArgument rest then
          (signed? n rest).bind fun (arg, rest) =>
            (trailing? n arg rest).bind fun (arg, rest) =>
              filters? n (finish (test name e [none] [arg])) rest
        else filters? n (finish (test name e [] [])) rest
      | _ => none
    | tokens => some (e, tokens)

end

/-- A number of steps that suffices for some tokens. -/
def steps (tokens : List Token) : Nat := 16 * (tokens.length + 2)

/-- Reads an expression at the front of some tokens. -/
def read? (tokens : List Token) : Option (Expr × List Token) := full? (steps tokens) tokens

/-- Reads an expression at the front of some tokens that a condition may follow. -/
def readPlain? (tokens : List Token) : Option (Expr × List Token) := binary? (steps tokens) 0 tokens

/-- The expression that all the tokens spell. -/
def ofTokens? (tokens : List Token) : Option Expr :=
  match read? tokens with
  | some (e, []) => some e
  | _ => none

end Expr

end RedactedBundle.Template
