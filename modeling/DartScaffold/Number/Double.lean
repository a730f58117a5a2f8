/-
**Binary floating-point numbers of 53 bits.**

A document may hold numbers with a fraction or an exponent.  Such a number is kept as the binary
floating-point number nearest to it: a sign, a mantissa below `2 ^ 53` and a power of two not
below `2 ^ -1074`, or an infinity, or no number at all.  The nearest number is found with whole
numbers only; of two equally near ones the one with an even mantissa is taken.

Main definitions:

* `Double` — a floating-point number;
* `Double.ofRatio`, `Double.ofDecimal` — the number nearest to a fraction, to a decimal;
* `Double.compare?` — the order of two numbers, if they have one;
* `Double.truncate?` — the whole part of a finite number.
-/

set_option relaxedAutoImplicit false
set_option autoImplicit false

namespace DartScaffold

/-- A binary floating-point number with a mantissa of at most 53 bits. -/
inductive Double where
  /-- The number `± mantissa · 2 ^ exponent`. -/
  | finite (negative : Bool) (mantissa : Nat) (exponent : Int)
  /-- An infinity. -/
  | infinite (negative : Bool)
  /-- Not a number. -/
  | nan
deriving DecidableEq, Repr, Inhabited

namespace Double

/-! ### The nearest number -/

/-- The whole number nearest to `num / den`, an even one if two are equally near. -/
def roundHalfEven (num den : Nat) : Nat :=
  let whole := num / den
  let twice := 2 * (num % den)
  if twice < den then whole
  else if den < twice then whole + 1
  else whole + whole % 2

/-- The fraction `num / den` multiplied by `2 ^ k`, as a fraction. -/
def scaled (num den : Nat) (k : Int) : Nat × Nat :=
  if 0 ≤ k then (num * Nat.pow 2 k.toNat, den) else (num, den * Nat.pow 2 (-k).toNat)

/-- The power of two whose multiples the numbers near `num / den` are. -/
def gridExponent (num den : Nat) : Int :=
  let guess : Int := (Nat.log2 num : Int) - (Nat.log2 den : Int)
  let (top, bottom) := scaled num den (-guess)
  max ((if bottom ≤ top then guess else guess - 1) - 52) (-1074)

/-- The number nearest to `± num / den`, where `den` is not zero. -/
def ofRatio (negative : Bool) (num den : Nat) : Double :=
  if num = 0 then .finite negative 0 0
  else
    let q := gridExponent num den
    let (top, bottom) := scaled num den (-q)
    let m := roundHalfEven top bottom
    let (m, q) := if m = Nat.pow 2 53 then (Nat.pow 2 52, q + 1) else (m, q)
    if 971 < q then .infinite negative
    else if m = 0 then .finite negative 0 0
    else .finite negative m q

/-- The number nearest to `± digits · 10 ^ exponent`.  Beyond the exponents that a number can have
the answer is known without computing the power. -/
def ofDecimal (negative : Bool) (digits : Nat) (exponent : Int) : Double :=
  if digits = 0 then .finite negative 0 0
  else
    let size : Int := (Nat.log2 digits : Int) / 3 + exponent
    if 400 < exponent then .infinite negative
    else if size < -400 then .finite negative 0 0
    else if 0 ≤ exponent then ofRatio negative (digits * Nat.pow 10 exponent.toNat) 1
    else ofRatio negative digits (Nat.pow 10 (-exponent).toNat)

/-! ### Order and whole part -/

/-- A finite number as a fraction with a sign: `± num / den`. -/
def ratio? : Double → Option (Bool × Nat × Nat)
  | .finite negative m q =>
    let (num, den) := scaled m 1 q
    some (negative, num, den)
  | _ => none

/-- The order of two numbers; none if one of them is not a number. -/
def compare? : Double → Double → Option Ordering
  | .nan, _ => none
  | _, .nan => none
  | .infinite a, .infinite b => some (compare b.toNat a.toNat)
  | .infinite a, .finite .. => some (if a then .lt else .gt)
  | .finite .., .infinite b => some (if b then .gt else .lt)
  | .finite a m p, .finite b n q =>
    let (x, y) := scaled m 1 p
    let (u, v) := scaled n 1 q
    let left : Int := if a then -(x * v : Int) else x * v
    let right : Int := if b then -(u * y : Int) else u * y
    some (compare left right)

/-- The whole part of a finite number: what is behind the point is dropped. -/
def truncate? : Double → Option Int
  | .finite negative m q =>
    let (num, den) := scaled m 1 q
    let whole : Int := (num / den : Nat)
    some (if negative then -whole else whole)
  | _ => none

/-- A multiple of a double, and then a whole number more, both rounded. -/
def timesPlus (d : Double) (times more : Nat) : Double :=
  match d.ratio? with
  | none => if times = 0 then nan else d
  | some (negative, num, den) =>
    match (ofRatio negative (num * times) den).ratio? with
    | none => .infinite negative
    | some (negative, num, den) =>
      let sum := (if negative then -(num : Int) else num) + (more * den : Nat)
      ofRatio (decide (sum < 0)) sum.natAbs den

/-- Either of the two zeros. -/
def isZero : Double → Bool
  | .finite _ m _ => m == 0
  | _ => false

end Double

end DartScaffold
