import RedactedBundle.Template.Value
import RedactedBundle.Text.Blank
import RedactedBundle.Text.Case
import RedactedBundle.Text.Lines

/-!
# Filters, tests and functions of templates

What can be done with a value by name. A name that is not known and arguments that do not fit are
failures.

## Main definitions

- `Arguments`: the arguments of a filter, test or function
- `filter?`, `test?`, `function?`: applying one by its name
-/

namespace RedactedBundle.Template

open Value hiding none

/-- The arguments of a filter, test or function. -/
structure Arguments where
  positional : List Value
  named : List (String × Value)
  deriving Inhabited

namespace Arguments

/-- There are at most so many positional arguments, and no named ones but certain. -/
def fits (args : Arguments) (count : Nat) (names : List String) : Bool :=
  args.positional.length ≤ count && args.named.all fun (name, _) => names.contains name

/-- The positional argument at a place. -/
def at? (args : Arguments) (place : Nat) : Option Value := args.positional[place]?

/-- The named argument of a name. -/
def named? (args : Arguments) (name : String) : Option Value := lookup? name args.named

end Arguments

/-- The characters with a meaning in markup, written so that they stand for themselves. -/
def escapeChar (c : Char) : List Char :=
  if c = '<' then "&lt;".toList
  else if c = '>' then "&gt;".toList
  else if c = '&' then "&amp;".toList
  else if c = '"' then "&quot;".toList
  else if c = '\'' then "&#x27;".toList
  else if c = '/' then "&#x2f;".toList
  else [c]

/-- A mark of ASCII that is no letter, digit, space or control character. -/
def isPunctuation (c : Char) : Bool :=
  33 ≤ c.toNat && c.toNat ≤ 126 && !c.isAlphanum

/-- Each word with its first letter in upper and the others in lower case; `start` tells that a
word begins. -/
def titleFrom (start : Bool) : List Char → List Char
  | [] => []
  | c :: rest =>
    if isPunctuation c || Text.isWhite c then c :: titleFrom true rest
    else (if start then Text.upperChar c else Text.lowerChar c) ++ titleFrom false rest

/-- The text with its first letter in upper and the others in lower case. -/
def capitalize : List Char → List Char
  | [] => []
  | c :: rest => Text.upperChar c ++ Text.lower rest

/-- The text of a value as characters. -/
def chars (v : Value) : List Char := v.text.toList

def ofChars (cs : List Char) : Value := string (String.ofList cs)

/-- The text without certain characters around it. -/
def trimChars (set cs : List Char) : List Char :=
  ((cs.dropWhile set.contains).reverse.dropWhile set.contains).reverse

/-- The lines of a text behind the first with an indentation, empty ones perhaps without. -/
def indentLines (indent : List Char) (blank : Bool) : List (List Char) → List (List Char)
  | [] => []
  | line :: rest =>
    (if line.isEmpty && !blank then line else indent ++ line) :: indentLines indent blank rest

/-- Values in ascending order; texts without regard to case unless `exact`. -/
def order (exact : Bool) (a b : Value) : Ordering :=
  match exact, a, b with
  | false, string s, string t =>
    compareStrings (String.ofList (Text.lower s.toList)) (String.ofList (Text.lower t.toList))
  | _, a, b => a.compare b

/-- The attribute that a dotted name leads to. -/
def path? (v : Value) : List (List Char) → Option Value
  | [] => some v
  | step :: rest =>
    (match (String.ofList step).toNat? with
      | some n => v.item? (integer n)
      | none => v.attribute? (String.ofList step)).bind fun v => path? v rest

/-- The attribute of a value that a dotted name in a text leads to. -/
def dotted? (name : String) (v : Value) : Option Value :=
  path? v (Text.splitOn ['.'] name.length name.toList)

/-- The key that values are ordered by. -/
def sortKey (member : Option Value) (v : Value) : Value :=
  match member with
  | some (string name) => (dotted? name v).getD undefined
  | _ => v

/-- Values without those that equal an earlier one. -/
def distinct (seen : List Value) : List Value → List Value
  | [] => []
  | v :: rest =>
    if seen.any fun other => order false other v = .eq then distinct seen rest
    else v :: distinct (v :: seen) rest

/-- The least value by an order, or the greatest if the order is turned round. -/
def extreme (wanted : Ordering) : List Value → Value
  | [] => undefined
  | v :: rest => rest.foldl (fun best w => if w.compare best = wanted then w else best) v

/-- Parts of a list of at most a length, the last filled up with a value. The first number bounds
the number of parts. -/
def chunks (size : Nat) (fill : Option Value) : Nat → List Value → List Value
  | 0, _ => []
  | _, [] => []
  | n + 1, elements =>
    let part := elements.take size
    let part := match fill with
      | some v => part ++ List.replicate (size - part.length) v
      | none => part
    list part :: chunks size fill n (elements.drop size)

/-- A float rounded to a number of places, a half away from zero. -/
def roundTo (x : Float) (places : Nat) : Float :=
  let scale := Float.ofNat (Nat.pow 10 places)
  (x * scale).round / scale

/-- The whole number that a text spells. -/
def readInt? (cs : List Char) : Option Int :=
  match cs with
  | '-' :: digits =>
    if digits.isEmpty || !digits.all Char.isDigit then none
    else (String.ofList digits).toNat?.map fun n => -(n : Int)
  | '+' :: digits =>
    if digits.isEmpty || !digits.all Char.isDigit then none
    else (String.ofList digits).toNat?.map fun n => (n : Int)
  | digits =>
    if digits.isEmpty || !digits.all Char.isDigit then none
    else (String.ofList digits).toNat?.map fun n => (n : Int)

/-- The number that a text with digits and at most one point spells. -/
def readFloat? (cs : List Char) : Option Float :=
  let (negative, cs) := match cs with
    | '-' :: rest => (true, rest)
    | '+' :: rest => (false, rest)
    | cs => (false, cs)
  let whole := cs.takeWhile Char.isDigit
  let rest := cs.drop whole.length
  let (fraction, rest) := match rest with
    | '.' :: rest => (rest.takeWhile Char.isDigit, rest.dropWhile Char.isDigit)
    | rest => ([], rest)
  if rest.isEmpty && !(whole.isEmpty && fraction.isEmpty) then
    let n := (whole ++ fraction).foldl (fun n d => n * 10 + (d.toNat - 48)) 0
    let x := Float.ofScientific n true fraction.length
    some (if negative then -x else x)
  else none

/-- The test of a name holds of a value. -/
def test? (name : String) (v : Value) (args : Arguments) : Option Bool :=
  let bare (b : Bool) : Option Bool := if args.fits 0 [] then some b else none
  let against (f : Value → Bool) : Option Bool :=
    if args.fits 1 [] then (args.at? 0).map f else none
  match name with
  | "defined" => bare (v.rank ≠ 0)
  | "undefined" => bare (v.rank = 0)
  | "none" => bare (v.rank = 1)
  | "boolean" => bare (v.rank = 2)
  | "number" => bare (v.rank = 3)
  | "integer" => bare (match v with | integer _ => true | _ => false)
  | "float" => bare (match v with | float _ => true | _ => false)
  | "string" => bare (v.rank = 4)
  | "sequence" => bare (v.rank = 5)
  | "mapping" => bare (v.rank = 6)
  | "iterable" => bare v.items?.isSome
  | "true" => bare (match v with | boolean true => true | _ => false)
  | "false" => bare (match v with | boolean false => true | _ => false)
  | "safe" | "escaped" => bare false
  | "odd" => bare (v.toInt?.any fun n => n % 2 ≠ 0)
  | "even" => bare (v.toInt?.any fun n => n % 2 = 0)
  | "divisibleby" => against fun d =>
    match v.toInt?, d.toInt? with
    | some n, some k => k ≠ 0 && n % k = 0
    | _, _ => false
  | "startingwith" => against fun p => (chars p).isPrefixOf (chars v)
  | "endingwith" => against fun p => (chars p).isSuffixOf (chars v)
  | "eq" | "equalto" | "==" => against fun w => v.beq w
  | "ne" | "!=" => against fun w => !v.beq w
  | "lt" | "lessthan" | "<" => against fun w => v.compare w = .lt
  | "le" | "<=" => against fun w => v.compare w ≠ .gt
  | "gt" | "greaterthan" | ">" => against fun w => v.compare w = .gt
  | "ge" | ">=" => against fun w => v.compare w ≠ .lt
  | "in" => against fun w => (contained? v w).getD false
  | "lower" => bare ((chars v).all fun c => Text.lowerChar c = [c])
  | "upper" => bare ((chars v).all fun c => Text.upperChar c = [c])
  | _ => none

/-- The elements of a list that pass a test, or that do not if `keep` is false; without a test,
those that count as true. -/
def selectElements? (keep : Bool) (member : Option String) (name : Option String)
    (args : List Value) : List Value → Option (List Value)
  | [] => some []
  | v :: rest =>
    let subject := match member with
      | some member => dotted? member v
      | none => some v
    let verdict := subject.bind fun subject => match name with
      | some name => test? name subject ⟨args, []⟩
      | none => some subject.truth
    verdict.bind fun passed =>
      (selectElements? keep member name args rest).map fun rest =>
        if passed = keep then v :: rest else rest

/-- The filter of a name applied to a value, but for the filter that applies others. -/
def plainFilter? (name : String) (v : Value) (args : Arguments) : Option Value :=
  let bare (r : Option Value) : Option Value := if args.fits 0 [] then r else none
  match name with
  | "upper" => bare (some (ofChars (Text.upper (chars v))))
  | "lower" => bare (some (ofChars (Text.lower (chars v))))
  | "title" => bare (some (ofChars (titleFrom true (chars v))))
  | "capitalize" => bare (some (ofChars (capitalize (chars v))))
  | "safe" => bare (some (string v.text))
  | "escape" | "e" => bare (some (ofChars ((chars v).flatMap escapeChar)))
  | "string" => bare (some (string v.text))
  | "length" | "count" => bare (v.length?.map fun n => integer n)
  | "bool" => bare (some (boolean v.truth))
  | "list" => bare (v.items?.map list)
  | "trim" =>
    if args.fits 1 [] then
      some (ofChars (match args.at? 0 with
        | some set => if set.rank ≤ 1 then Text.trim (chars v) else trimChars (chars set) (chars v)
        | none => Text.trim (chars v)))
    else none
  | "replace" =>
    if args.fits 2 [] then
      (args.at? 0).bind fun old => (args.at? 1).map fun new =>
        ofChars (Text.replaceAll (chars old) (chars new) (chars v))
    else none
  | "split" =>
    if args.fits 2 [] then
      match args.at? 0 with
      | some between =>
        some (list ((Text.splitOn (chars between) (chars v).length (chars v)).map ofChars))
      | none =>
        some (list ((((chars v).splitOnP Text.isWhite).filter (!·.isEmpty)).map ofChars))
    else none
  | "default" | "d" =>
    if args.fits 1 [] then some (if v.rank = 0 then (args.at? 0).getD (string "") else v) else none
  | "join" =>
    if args.fits 1 [] then
      let between := match args.at? 0 with
        | some s => if s.rank ≤ 1 then "" else s.text
        | none => ""
      match v with
      | undefined => some (string "")
      | .none => some (string "")
      | v => v.items?.map fun elements => string (between.intercalate (elements.map Value.text))
    else none
  | "first" => bare (match v with
    | string _ => v.items?.map fun elements => elements.headD undefined
    | list elements => some (elements.headD undefined)
    | _ => none)
  | "last" => bare (match v with
    | string _ => v.items?.map fun elements => elements.getLastD undefined
    | list elements => some (elements.getLastD undefined)
    | _ => none)
  | "reverse" => bare (match v with
    | string s => some (ofChars s.toList.reverse)
    | list elements => some (list elements.reverse)
    | _ => none)
  | "min" => bare (v.items?.map (extreme .lt))
  | "max" => bare (v.items?.map (extreme .gt))
  | "sum" => bare (v.items?.bind fun elements =>
    elements.foldl (fun sum w => sum.bind fun sum => arithmetic? .add sum w) (some (integer 0)))
  | "sort" =>
    if args.fits 0 ["case_sensitive", "attribute", "reverse"] then
      v.items?.map fun elements =>
        let exact := ((args.named? "case_sensitive").map Value.truth).getD false
        let key := sortKey (args.named? "attribute")
        let sorted := elements.mergeSort fun a b => order exact (key a) (key b) ≠ .gt
        let turned := elements.mergeSort fun a b => order exact (key a) (key b) ≠ .lt
        list (if ((args.named? "reverse").map Value.truth).getD false then turned else sorted)
    else none
  | "unique" => if args.fits 0 ["case_sensitive", "attribute"] then
      v.items?.map fun elements => list (distinct [] elements)
    else none
  | "items" => bare (match v with
    | map entries => some (list (entries.map fun (k, w) => list [string k, w]))
    | _ => none)
  | "dictsort" => if args.fits 0 ["by", "reverse", "case_sensitive"] then
      match v with
      | map entries => some (list (entries.map fun (k, w) => list [string k, w]))
      | _ => none
    else none
  | "abs" => bare (match v with
    | integer n => some (integer n.natAbs)
    | float x => some (float x.abs)
    | _ => none)
  | "round" =>
    if args.fits 1 [] then
      match v with
      | integer n => some (integer n)
      | float x =>
        some (float (roundTo x (((args.at? 0).bind Value.toInt?).map Int.toNat |>.getD 0)))
      | _ => none
    else none
  | "int" => bare (match v with
    | undefined => some (integer 0)
    | .none => some (integer 0)
    | boolean b => some (integer (if b then 1 else 0))
    | integer n => some (integer n)
    | float x => some (integer (if x < 0 then -((-x).floor.toUInt64.toNat : Int)
        else x.floor.toUInt64.toNat))
    | string s => (readInt? s.toList).map integer
    | _ => none)
  | "float" => bare (match v with
    | undefined => some (float 0)
    | .none => some (float 0)
    | boolean b => some (float (if b then 1 else 0))
    | integer n => some (float (Float.ofInt n))
    | float x => some (float x)
    | string s => (readFloat? s.toList).map float
    | _ => none)
  | "attr" => if args.fits 1 [] then (args.at? 0).bind fun key => v.item? key else none
  | "batch" => if args.fits 2 [] then
      match (args.at? 0).bind Value.toInt?, v.items? with
      | some n, some elements =>
        if n ≤ 0 then none
        else some (list (chunks n.toNat (args.at? 1) elements.length elements))
      | _, _ => none
    else none
  | "indent" => if args.fits 3 [] then
      match (args.at? 0).bind Value.toInt? with
      | some width =>
        let indent := List.replicate width.toNat ' '
        let first := ((args.at? 1).map Value.truth).getD false
        let blank := ((args.at? 2).map Value.truth).getD false
        let cs := chars v
        let cs := if cs.getLast? = some '\n' then cs.dropLast else cs
        let cs := if cs.getLast? = some '\r' then cs.dropLast else cs
        match Text.lines cs with
        | [] => some (string "")
        | line :: rest =>
          let line := if first then indent ++ line else line
          some (ofChars (['\n'].intercalate (line :: indentLines indent blank rest)))
      | none => none
    else none
  | "select" | "reject" =>
    match args.positional with
    | [] => v.items?.bind fun elements =>
        (selectElements? (name = "select") none none [] elements).map list
    | test :: rest => v.items?.bind fun elements =>
        (selectElements? (name = "select") none (some test.text) rest elements).map list
  | "selectattr" | "rejectattr" =>
    match args.positional with
    | [] => none
    | [member] => v.items?.bind fun elements =>
        (selectElements? (name = "selectattr") (some member.text) none [] elements).map list
    | member :: test :: rest => v.items?.bind fun elements =>
        (selectElements? (name = "selectattr") (some member.text) (some test.text) rest
          elements).map list
  | _ => none

/-- The results of a filter on each element. -/
def mapElements? (f : Value → Option Value) : List Value → Option (List Value)
  | [] => some []
  | v :: rest => (f v).bind fun w => (mapElements? f rest).map (w :: ·)

/-- The filter of a name applied to a value. -/
def filter? (name : String) (v : Value) (args : Arguments) : Option Value :=
  if name = "map" then
    match args.named? "attribute" with
    | some member =>
      if args.fits 0 ["attribute", "default"] then
        v.items?.bind fun elements =>
          (mapElements? (fun w => (match member with
            | integer n => w.item? (integer n)
            | member => dotted? member.text w).map fun (r : Value) =>
              if r.rank = 0 then (args.named? "default").getD r else r) elements).map list
      else none
    | none =>
      match args.positional with
      | other :: rest => v.items?.bind fun elements =>
          (mapElements? (fun w => plainFilter? other.text w ⟨rest, args.named⟩) elements).map list
      | [] => none
  else plainFilter? name v args

/-- The whole numbers from a first one in steps, so many of them. -/
def numbers (first step : Int) : Nat → List Value
  | 0 => []
  | n + 1 => integer first :: numbers (first + step) step n

/-- The function of a name applied to arguments. -/
def function? (name : String) (args : Arguments) : Option Value :=
  match name with
  | "range" =>
    if args.fits 3 [] then
      match args.positional.mapM Value.toInt? with
      | some [stop] => if stop ≤ 100000 then some (list (numbers 0 1 stop.toNat)) else none
      | some [start, stop] =>
        if stop - start ≤ 100000 then some (list (numbers start 1 (stop - start).toNat)) else none
      | some [start, stop, step] =>
        let count := ((stop - start + step - 1) / step).toNat
        if 0 < step && count ≤ 100000 then some (list (numbers start step count)) else none
      | _ => none
    else none
  | "dict" =>
    match args.positional with
    | [] => some (ofEntries args.named)
    | [map entries] => some (ofEntries (entries ++ args.named))
    | _ => none
  | _ => none

end RedactedBundle.Template
