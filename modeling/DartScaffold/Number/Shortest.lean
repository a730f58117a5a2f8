/-
**The shortest decimal that reads back.**

A floating-point number is written with the fewest significant digits that are read back as the
same number, and of those with the digits nearest to it.  The decimals that are read back as a
number are those in an interval around it, with its ends if the mantissa is even; on the grid of
decimals with a given number of digits only the two neighbours of the number can be nearest, so
the grids are tried from one digit on.

Main definitions:

* `Double.Decimal` — digits and a power of ten;
* `Double.shortest` — the shortest decimal of a positive number;
* `Double.text` — the written form.
-/

import DartScaffold.Number.Double

set_option relaxedAutoImplicit false
set_option autoImplicit false

namespace DartScaffold.Double

/-- The decimal `digits · 10 ^ exponent`. -/
structure Decimal where
  digits : Nat
  exponent : Int
deriving DecidableEq, Repr

/-- A fraction multiplied by a power of ten, as a fraction. -/
def scaledTen (num den : Nat) (k : Int) : Nat × Nat :=
  if 0 ≤ k then (num * Nat.pow 10 k.toNat, den) else (num, den * Nat.pow 10 (-k).toNat)

/-- The numbers in the interval that is rounded to `mantissa · 2 ^ exponent`, tested for a
decimal: twice and four times the distances are compared as whole numbers. -/
def readsBack (mantissa : Nat) (exponent : Int) (d : Decimal) : Bool :=
  -- the decimal and the number over the common grid `2 ^ (exponent - 2)`
  let (top, bottom) := scaledTen d.digits 1 d.exponent
  let (x, y) := Double.scaled top bottom (2 - exponent)
  let upper := (4 * mantissa + 2) * y
  let lower :=
    if mantissa = Nat.pow 2 52 ∧ -1074 < exponent then (4 * mantissa - 1) * y
    else (4 * mantissa - 2) * y
  if mantissa % 2 = 0 then lower ≤ x && x ≤ upper else lower < x && x < upper

/-- The number of decimal digits of a whole number; zero has none. -/
def digitCount (n : Nat) : Nat := if n = 0 then 0 else (Nat.toDigits 10 n).length

/-- The greatest `k` with `10 ^ k ≤ num / den`. -/
def tenExponent (num den : Nat) : Int :=
  let guess : Int := (digitCount num : Int) - (digitCount den : Int)
  let (x, y) := scaledTen num den (-guess)
  if y ≤ x then guess else guess - 1

/-- The nearer of the two neighbours with `count` digits that reads back, if one does. -/
def withDigits? (mantissa : Nat) (exponent : Int) (count : Nat) : Option Decimal :=
  let (num, den) := Double.scaled mantissa 1 exponent
  let grid := tenExponent num den - (count - 1 : Int)
  let (x, y) := scaledTen num den (-grid)
  let below : Decimal := ⟨x / y, grid⟩
  let above : Decimal := ⟨x / y + 1, grid⟩
  let rest := 2 * (x % y)
  let nearer := if rest < y ∨ (rest = y ∧ (x / y) % 2 = 0) then below else above
  let farther := if nearer = below then above else below
  if readsBack mantissa exponent nearer then some nearer
  else if readsBack mantissa exponent farther then some farther
  else none

/-- The digits without the zeros at their end.  The count bounds the zeros removed. -/
def trimZeros : Nat → Decimal → Decimal
  | 0, d => d
  | n + 1, d =>
    if d.digits ≠ 0 ∧ d.digits % 10 = 0 then trimZeros n ⟨d.digits / 10, d.exponent + 1⟩ else d

/-- The shortest decimal that is read back as `mantissa · 2 ^ exponent`; 17 digits always do. -/
def shortest (mantissa : Nat) (exponent : Int) : Decimal :=
  let found := (List.range 17).findSome? fun n => withDigits? mantissa exponent (n + 1)
  trimZeros 17 (found.getD ⟨mantissa, 0⟩)

/-! ### The written form -/

/-- The digits of a positive decimal with a point among or around them: positional from `10 ^ -4`
up to below `10 ^ 16`, with `.0` after a whole number, else one digit before the point and an
exponent of at least two digits. -/
def Decimal.text (d : Decimal) : String :=
  let digits := Nat.toDigits 10 d.digits
  let point : Int := digits.length + d.exponent
  if -4 < point ∧ point ≤ 16 then
    if point ≤ 0 then
      "0." ++ String.ofList (List.replicate (-point).toNat '0' ++ digits)
    else
      let n := point.toNat
      let whole := digits.take n ++ List.replicate (n - digits.length) '0'
      let fraction := digits.drop n
      String.ofList whole ++ "." ++ (if fraction.isEmpty then "0" else String.ofList fraction)
  else
    let power := point - 1
    let exponent := Nat.toDigits 10 power.natAbs
    String.ofList (digits.take 1) ++
      (if digits.length ≤ 1 then "" else "." ++ String.ofList (digits.drop 1)) ++
      (if power < 0 then "e-" else "e+") ++
      (if exponent.length < 2 then "0" else "") ++ String.ofList exponent

/-- The written form of a floating-point number, with the given names of the values that are not
finite. -/
def textWith (nanName infiniteName : String) : Double → String
  | .nan => nanName
  | .infinite negative => (if negative then "-" else "") ++ infiniteName
  | .finite negative m q =>
    (if negative then "-" else "") ++ (if m = 0 then "0.0" else (shortest m q).text)

/-- The written form of a floating-point number. -/
def text : Double → String := textWith "nan" "inf"

end DartScaffold.Double
