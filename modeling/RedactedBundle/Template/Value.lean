import RedactedBundle.Decimal.Shortest
import RedactedBundle.Text.Search

/-!
# Values of templates

The values that the expressions of a template compute with.

## Main definitions

- `Template.Value`: a value
- `Template.Value.text`: a value as it is written into the output
- `Template.Value.compare`, `Template.Value.beq`: order and equality
- `Template.arithmetic?`: the arithmetic operators
-/

namespace RedactedBundle.Template

/-- A value of a template. The entries of a map are in ascending order of their keys. -/
inductive Value where
  | undefined
  | none
  | boolean (b : Bool)
  | integer (n : Int)
  | float (x : Float)
  | string (s : String)
  | list (elements : List Value)
  | map (entries : List (String × Value))
  deriving Inhabited

namespace Value

/-- A character as it is written inside quotation marks. -/
def quoteChar (c : Char) : List Char :=
  if c = '"' then ['\\', '"']
  else if c = '\\' then ['\\', '\\']
  else if c = '\n' then ['\\', 'n']
  else if c = '\r' then ['\\', 'r']
  else if c = '\t' then ['\\', 't']
  else if c.toNat = 0 then ['\\', '0']
  else if c.toNat < 32 || (127 ≤ c.toNat && c.toNat < 160) then
    ['\\', 'u', '\x7b'] ++ Nat.toDigits 16 c.toNat ++ ['\x7d']
  else [c]

/-- A text in quotation marks. -/
def quote (s : String) : String :=
  String.ofList ('"' :: s.toList.flatMap quoteChar ++ ['"'])

/-- A value that holds no others, as it is written. -/
def plainText : Value → String
  | undefined => ""
  | none => "none"
  | boolean b => if b then "true" else "false"
  | integer n => toString n
  | float x => Decimal.text x
  | string s => s
  | list _ => ""
  | map _ => ""

mutual

/-- A value as it is written inside another. -/
def inner : Value → String
  | undefined => "undefined"
  | string s => quote s
  | list elements => "[" ++ ", ".intercalate (innerList elements) ++ "]"
  | map entries => "\x7b" ++ ", ".intercalate (innerMap entries) ++ "\x7d"
  | v => plainText v

def innerList : List Value → List String
  | [] => []
  | v :: rest => v.inner :: innerList rest

def innerMap : List (String × Value) → List String
  | [] => []
  | (key, v) :: rest => (quote key ++ ": " ++ v.inner) :: innerMap rest

end

/-- A value as it is written into the output. -/
def text : Value → String
  | list elements => (list elements).inner
  | map entries => (map entries).inner
  | v => plainText v

/-- The value counts as true. -/
def truth : Value → Bool
  | undefined => false
  | none => false
  | boolean b => b
  | integer n => n ≠ 0
  | float x => x != 0
  | string s => s ≠ ""
  | list elements => !elements.isEmpty
  | map entries => !entries.isEmpty

/-- The place of the sort of a value among the sorts. -/
def rank : Value → Nat
  | undefined => 0
  | none => 1
  | boolean _ => 2
  | integer _ => 3
  | float _ => 3
  | string _ => 4
  | list _ => 5
  | map _ => 6

/-- A number or truth value as a float. -/
def toFloat? : Value → Option Float
  | boolean b => some (if b then 1 else 0)
  | integer n => some (Float.ofInt n)
  | float x => some x
  | _ => Option.none

/-- A whole number or truth value as an integer. -/
def toInt? : Value → Option Int
  | boolean b => some (if b then 1 else 0)
  | integer n => some n
  | _ => Option.none

/-- Two values brought to one sort. -/
inductive Pair where
  | integers (a b : Int)
  | floats (a b : Float)
  | strings (a b : String)

/-- Brings two values to one sort, if they are both numbers or both texts. -/
def pair? : Value → Value → Option Pair
  | string a, string b => some (.strings a b)
  | float a, b => (toFloat? b).map (.floats a)
  | a, float b => (toFloat? a).map (.floats · b)
  | a, b => (toInt? a).bind fun a => (toInt? b).map (.integers a)

/-- The order of two floats; one that is no number comes last. -/
def compareFloats (a b : Float) : Ordering :=
  if a < b then .lt else if b < a then .gt
  else if a == b then .eq
  else if a.isNaN && b.isNaN then .eq
  else if a.isNaN then .gt else .lt

def compareStrings (a b : String) : Ordering := if a < b then .lt else if b < a then .gt else .eq

mutual

/-- The order of two values: of one sort by what they hold, otherwise by their sorts. -/
def compare : Value → Value → Ordering
  | list a, list b => compareLists a b
  | map a, map b => compareMaps a b
  | a, b =>
    let own := match pair? a b with
      | some (.integers a b) => Ord.compare a b
      | some (.floats a b) => compareFloats a b
      | some (.strings a b) => compareStrings a b
      | Option.none => .eq
    own.then (Ord.compare a.rank b.rank)

def compareLists : List Value → List Value → Ordering
  | [], [] => .eq
  | [], _ :: _ => .lt
  | _ :: _, [] => .gt
  | a :: as, b :: bs => (compare a b).then (compareLists as bs)

def compareMaps : List (String × Value) → List (String × Value) → Ordering
  | [], [] => .eq
  | [], _ :: _ => .lt
  | _ :: _, [] => .gt
  | (k, a) :: as, (l, b) :: bs =>
    (compareStrings k l).then ((compare a b).then (compareMaps as bs))

end

mutual

/-- Two values are equal; numbers and truth values by what they count for. -/
def beq : Value → Value → Bool
  | undefined, undefined => true
  | none, none => true
  | list a, list b => beqLists a b
  | map a, map b => beqMaps a b
  | a, b =>
    match pair? a b with
    | some (.integers a b) => a == b
    | some (.floats a b) => a == b
    | some (.strings a b) => a == b
    | Option.none => false

def beqLists : List Value → List Value → Bool
  | [], [] => true
  | a :: as, b :: bs => beq a b && beqLists as bs
  | _, _ => false

def beqMaps : List (String × Value) → List (String × Value) → Bool
  | [], [] => true
  | (k, a) :: as, (l, b) :: bs => k == l && beq a b && beqMaps as bs
  | _, _ => false

end

/-- Puts an entry into its place among ascending keys. -/
def insertEntry (key : String) (v : Value) : List (String × Value) → List (String × Value)
  | [] => [(key, v)]
  | (other, old) :: rest =>
    if key < other then (key, v) :: (other, old) :: rest
    else if key = other then (key, v) :: rest
    else (other, old) :: insertEntry key v rest

/-- The map of some entries; of two with one key the later counts. -/
def ofEntries (entries : List (String × Value)) : Value :=
  map (entries.foldl (fun sorted (key, v) => insertEntry key v sorted) [])

/-- The entry of a map under a key. -/
def lookup? (key : String) : List (String × Value) → Option Value
  | [] => Option.none
  | (other, v) :: rest => if other = key then some v else lookup? key rest

/-- The attribute of a value; undefined unless the value is a map that has it. Undefined itself
has no attributes. -/
def attribute? (key : String) : Value → Option Value
  | undefined => Option.none
  | map entries => some ((lookup? key entries).getD undefined)
  | _ => some undefined

/-- The element of a list at a place, counted from the end if negative. -/
def element (elements : List Value) (place : Int) : Value :=
  if 0 ≤ place then (elements[place.toNat]?).getD undefined
  else if (-place).toNat ≤ elements.length then
    (elements[elements.length - (-place).toNat]?).getD undefined
  else undefined

/-- The item of a value under an index. -/
def item? (v index : Value) : Option Value :=
  match v, index with
  | undefined, _ => Option.none
  | map entries, string key => some ((lookup? key entries).getD undefined)
  | list elements, integer n => some (element elements n)
  | _, _ => some undefined

/-- The elements to go through: those of a list, the keys of a map, the characters of a text. -/
def items? : Value → Option (List Value)
  | undefined => some []
  | none => some []
  | list elements => some elements
  | map entries => some (entries.map fun entry => string entry.1)
  | string s => some (s.toList.map fun c => string c.toString)
  | _ => Option.none

/-- The number of elements. -/
def length? : Value → Option Nat
  | list elements => some elements.length
  | map entries => some entries.length
  | string s => some s.length
  | _ => Option.none

end Value

open Value

/-- The binary operators that compute a value from two others. -/
inductive Operator where
  | add | sub | mul | div | floorDiv | rem | pow
  | concat
  | eq | ne | lt | le | gt | ge
  | contained
  deriving Repr, DecidableEq, Inhabited

/-- The least whole number that does not fit into 128 bits with a sign. -/
def integerLimit : Int := 0x80000000000000000000000000000000

/-- A whole number, if it fits into 128 bits. -/
def bounded? (n : Int) : Option Value :=
  if -integerLimit ≤ n && n < integerLimit then some (integer n) else Option.none

/-- The quotient of two floats, rounded so that the remainder is not negative. -/
def floatQuotient (a b : Float) : Float :=
  let q := if a / b < 0 then (a / b).ceil else (a / b).floor
  if a - b * q < 0 then (if b > 0 then q - 1 else q + 1) else q

/-- The remainder of two floats, with the sign of the first. -/
def floatRemainder (a b : Float) : Float :=
  let q := if a / b < 0 then (a / b).ceil else (a / b).floor
  a - b * q

/-- The arithmetic operators on numbers; texts can be added to each other. -/
def arithmetic? (op : Operator) (a b : Value) : Option Value :=
  match op with
  | .div => (toFloat? a).bind fun x => (toFloat? b).map fun y => float (x / y)
  | _ =>
    match op, pair? a b with
    | .add, some (.strings x y) => some (string (x ++ y))
    | .add, some (.integers x y) => bounded? (x + y)
    | .add, some (.floats x y) => some (float (x + y))
    | .sub, some (.integers x y) => bounded? (x - y)
    | .sub, some (.floats x y) => some (float (x - y))
    | .mul, some (.integers x y) => bounded? (x * y)
    | .mul, some (.floats x y) => some (float (x * y))
    | .floorDiv, some (.integers x y) => if y = 0 then Option.none else bounded? (x / y)
    | .floorDiv, some (.floats x y) => some (float (floatQuotient x y))
    | .rem, some (.integers x y) => if y = 0 then Option.none else bounded? (x % y)
    | .rem, some (.floats x y) => some (float (floatRemainder x y))
    | .pow, some (.integers x y) =>
      if 0 ≤ y && (y ≤ 127 || x.natAbs ≤ 1) && y < 0x100000000 then
        bounded? (Int.pow x (y % 256).toNat)
      else Option.none
    | .pow, some (.floats x y) => some (float (Float.pow x y))
    | _, _ => Option.none

/-- The first value is found in the second: as a part of a text, an element or a key. -/
def contained? (a : Value) : Value → Option Bool
  | string s =>
    match a with
    | string t => some (Text.isPart t.toList s.toList)
    | _ => some (Text.isPart a.text.toList s.toList)
  | list elements => some (elements.any fun e => e.beq a)
  | map entries =>
    match a with
    | string key => some (lookup? key entries).isSome
    | _ => some false
  | undefined => some false
  | _ => Option.none

/-- The value of a binary operator. -/
def Operator.apply? (op : Operator) (a b : Value) : Option Value :=
  match op with
  | .concat => some (string (a.text ++ b.text))
  | .eq => some (boolean (a.beq b))
  | .ne => some (boolean (!a.beq b))
  | .lt => some (boolean (a.compare b = .lt))
  | .le => some (boolean (a.compare b ≠ .gt))
  | .gt => some (boolean (a.compare b = .gt))
  | .ge => some (boolean (a.compare b ≠ .lt))
  | .contained => (contained? a b).map boolean
  | op => arithmetic? op a b

/-- The value of the sign operator. -/
def negate? : Value → Option Value
  | integer n => bounded? (-n)
  | float x => some (float (-x))
  | _ => Option.none

end RedactedBundle.Template
