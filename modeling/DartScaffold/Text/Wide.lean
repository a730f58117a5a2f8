/-
**Texts in wide units.**

A text may be sent in units of two or of four bytes, with the high byte of each unit first or last.
A unit of four bytes is a code point.  So is a unit of two bytes, except that the code points that
do not fit into it are written by a high and a low surrogate.  Bytes that do not fill their last
unit, a surrogate without its partner and a number that is no code point make the bytes no text.

Main definitions:

* `Text.Wide.Coding` — the width of the units and the order of their bytes;
* `Text.Wide.Coding.units?` — bytes as units;
* `Text.Wide.paired?`, `Text.Wide.single?` — units as characters;
* `Text.Wide.Coding.decode?` — the text that bytes write.
-/

set_option relaxedAutoImplicit false
set_option autoImplicit false

namespace DartScaffold.Text.Wide

/-- The width of the units of a text, and whether their high bytes come first. -/
structure Coding where
  isFour : Bool
  highFirst : Bool
deriving DecidableEq, Repr

/-! ### Units -/

/-- The number that bytes write, high byte first. -/
def numberOf (bytes : List UInt8) : Nat := bytes.foldl (fun n b => n * 256 + b.toNat) 0

/-- The number that the bytes of one unit write. -/
def Coding.unit (c : Coding) (bytes : List UInt8) : Nat :=
  numberOf (if c.highFirst then bytes else bytes.reverse)

/-- Bytes as units of two. -/
def Coding.pairs? (c : Coding) : List UInt8 → Option (List Nat)
  | [] => some []
  | a :: b :: rest => (c.pairs? rest).map (c.unit [a, b] :: ·)
  | _ => none

/-- Bytes as units of four. -/
def Coding.quads? (c : Coding) : List UInt8 → Option (List Nat)
  | [] => some []
  | a :: b :: d :: e :: rest => (c.quads? rest).map (c.unit [a, b, d, e] :: ·)
  | _ => none

/-- Bytes as units. -/
def Coding.units? (c : Coding) (bytes : List UInt8) : Option (List Nat) :=
  if c.isFour then c.quads? bytes else c.pairs? bytes

/-! ### Characters -/

/-- A number that stands for the first half of a character. -/
def isHigh (n : Nat) : Bool := 0xD800 ≤ n && n < 0xDC00

/-- A number that stands for the second half of a character. -/
def isLow (n : Nat) : Bool := 0xDC00 ≤ n && n < 0xE000

/-- The character with a code point. -/
def single? (n : Nat) : Option Char := if n.isValidChar then some (Char.ofNat n) else none

/-- The characters of units of two bytes. -/
def paired? : List Nat → Option (List Char)
  | [] => some []
  | [n] => (single? n).map ([·])
  | n :: m :: rest =>
    if isHigh n && isLow m then
      (paired? rest).map (Char.ofNat (0x10000 + (n - 0xD800) * 0x400 + (m - 0xDC00)) :: ·)
    else do return (← single? n) :: (← paired? (m :: rest))

/-- The text that bytes write. -/
def Coding.decode? (c : Coding) (bytes : List UInt8) : Option String := do
  let units ← c.units? bytes
  return String.ofList (← if c.isFour then units.mapM single? else paired? units)

end DartScaffold.Text.Wide
