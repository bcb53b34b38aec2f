/-!
# Shortest decimal text

The text of a number of double precision: the fewest decimal digits that lie closer to it than to
any other such number, and of several such decimals the nearest. It is written without an
exponent, with at least one digit on either side of the point.

## Main definitions

- `Decimal.shortest`: the digits for a mantissa and a power of two
- `Decimal.text`: the text of a number
-/

namespace RedactedBundle.Decimal

/-- A positive number `digits * 10 ^ exponent`. -/
structure Scaled where
  digits : Nat
  exponent : Int
  deriving Repr, DecidableEq, Inhabited

/-- The comparison of `a * 10 ^ e` with `b * 2 ^ q`. -/
def compareScaled (a : Nat) (e : Int) (b : Nat) (q : Int) : Ordering :=
  compare (a * Nat.pow 10 e.toNat * Nat.pow 2 (-q).toNat)
    (b * Nat.pow 2 q.toNat * Nat.pow 10 (-e).toNat)

/-- A decimal lies in the interval of the reals nearest to `m * 2 ^ q`, whose ends belong to it
if `m` is even. The lower half of the interval is narrower where `m` begins a power of two. -/
def readsBack (m : Nat) (q : Int) (narrow : Bool) (d : Scaled) : Bool :=
  let low := compareScaled d.digits d.exponent (4 * m - (if narrow then 1 else 2)) (q - 2)
  let high := compareScaled d.digits d.exponent (4 * m + 2) (q - 2)
  let even := m % 2 = 0
  (low = .gt || (even && low = .eq)) && (high = .lt || (even && high = .eq))

/-- The whole multiple of `10 ^ e` at or below `m * 2 ^ q`. -/
def below (m : Nat) (q e : Int) : Nat :=
  (m * Nat.pow 2 q.toNat * Nat.pow 10 (-e).toNat) / (Nat.pow 2 (-q).toNat * Nat.pow 10 e.toNat)

/-- The upper of the two neighbouring multiples is at least as near as the lower one. -/
def upperNearer (m : Nat) (q : Int) (d : Scaled) : Bool :=
  compareScaled (2 * d.digits + 1) d.exponent (2 * m) q ≠ .gt

/-- The neighbour of the number on the grid of multiples of a power of ten that reads back; the
nearer of the two if both do. -/
def onGrid? (m : Nat) (q : Int) (narrow : Bool) (e : Int) : Option Scaled :=
  let low : Scaled := ⟨below m q e, e⟩
  let high : Scaled := ⟨low.digits + 1, e⟩
  match readsBack m q narrow low, readsBack m q narrow high with
  | true, true => some (if upperNearer m q low then high else low)
  | true, false => some low
  | false, true => some high
  | false, false => none

/-- The power of ten of the leading digit of a positive number, near a first guess. -/
def leading (m : Nat) (q : Int) : Int :=
  let guess := ((Nat.log2 m : Int) + q) * 30103 / 100000
  if below m q (guess + 1) ≠ 0 then guess + 1 else if below m q guess ≠ 0 then guess else guess - 1

/-- The decimal of the fewest digits, at least one and at most seventeen, that reads back. -/
def shortest (m : Nat) (q : Int) (narrow : Bool) : Scaled :=
  let top := leading m q
  ((List.range 17).findSome? fun (n : Nat) => onGrid? m q narrow (top - n)).getD
    ⟨below m q (top - 16), top - 16⟩

/-- The text of a decimal, with a point and digits on both sides of it. -/
def plain (d : Scaled) : String :=
  let digits := Nat.toDigits 10 d.digits
  if 0 ≤ d.exponent then
    String.ofList (digits ++ List.replicate d.exponent.toNat '0') ++ ".0"
  else
    let places := (-d.exponent).toNat
    let padded := List.replicate (places + 1 - digits.length) '0' ++ digits
    let point := padded.length - places
    String.ofList (padded.take point) ++ "." ++ String.ofList (padded.drop point)

/-- Drops zeros at the end of the digits. The first number bounds their number. -/
def normalize : Nat → Scaled → Scaled
  | 0, d => d
  | n + 1, d =>
    if d.digits % 10 = 0 && d.digits ≠ 0 then normalize n ⟨d.digits / 10, d.exponent + 1⟩ else d

/-- The text of a number. -/
def text (x : Float) : String :=
  if x.isNaN then "NaN"
  else
    let bits := x.toBits.toNat
    let sign := if bits >>> 63 = 1 then "-" else ""
    let field := (bits >>> 52) % 0x800
    let fraction := bits % (1 <<< 52)
    if field = 2047 then sign ++ "inf"
    else if field = 0 && fraction = 0 then sign ++ "0.0"
    else
      let m := if field = 0 then fraction else (1 <<< 52) + fraction
      let q : Int := (max field 1 : Nat) - 1075
      sign ++ plain (normalize 17 (shortest m q (fraction = 0 && 1 < field)))

end RedactedBundle.Decimal
