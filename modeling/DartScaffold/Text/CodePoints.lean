/-
**Sets of characters given by code point ranges.**

The character classes that the project needs (blank characters, letters and digits, printable
characters) are properties of the Unicode standard.  Each is stored as a list of inclusive ranges
of code points, and a character belongs to the class when one of the ranges holds its code point.

Main definitions:

* `Text.CodePoints` — a set of code points;
* `Text.CodePoints.contains` — membership of a character.
-/

set_option relaxedAutoImplicit false
set_option autoImplicit false

namespace DartScaffold.Text

/-- A set of code points, written as inclusive ranges in increasing order. -/
structure CodePoints where
  /-- The ranges, each given by its first and its last code point. -/
  ranges : List (Nat × Nat)

/-- Whether a character belongs to the set. -/
def CodePoints.contains (s : CodePoints) (c : Char) : Bool :=
  s.ranges.any fun r => decide (r.1 ≤ c.toNat) && decide (c.toNat ≤ r.2)

end DartScaffold.Text
