/-
**Quoted texts.**

A message that names a text shows it between quotes: single quotes, or double quotes when the text
holds a single quote and no double one.  The quote and the backslash are escaped by a backslash,
line feed, carriage return and tab by a letter, and any other character that is not printable by
its code point in hexadecimal, with two, four or eight digits.

Main definitions:

* `Text.quoteMark` — the quote that a text is put between;
* `Text.escape` — a character as it is shown between quotes;
* `Text.quoted` — the quoted text.

Main results:

* `Text.length_hexDigits` — the number of digits of a code point.
-/

import DartScaffold.Text.Printable

set_option relaxedAutoImplicit false
set_option autoImplicit false

namespace DartScaffold.Text

/-- The last `width` hexadecimal digits of a number. -/
def hexDigits : (width : Nat) → Nat → List Char
  | 0, _ => []
  | width + 1, n => hexDigits width (n / 16) ++ [Nat.digitChar (n % 16)]

@[simp] theorem length_hexDigits (width n : Nat) : (hexDigits width n).length = width := by
  induction width generalizing n with
  | zero => rfl
  | succ width ih => simp [hexDigits, ih]

/-- The quote that a text is put between. -/
def quoteMark (cs : List Char) : Char :=
  if cs.contains '\'' && !cs.contains '"' then '"' else '\''

/-- A character as it is shown between the quotes `mark`. -/
def escape (mark c : Char) : List Char :=
  if c == mark || c == '\\' then ['\\', c]
  else if c == '\n' then ['\\', 'n']
  else if c == '\r' then ['\\', 'r']
  else if c == '\t' then ['\\', 't']
  else if isPrintable c then [c]
  else if c.toNat < 0x100 then '\\' :: 'x' :: hexDigits 2 c.toNat
  else if c.toNat < 0x10000 then '\\' :: 'u' :: hexDigits 4 c.toNat
  else '\\' :: 'U' :: hexDigits 8 c.toNat

/-- A text between quotes. -/
def quoted (s : String) : String :=
  let mark := quoteMark s.toList
  String.ofList (mark :: (s.toList.flatMap (escape mark) ++ [mark]))

end DartScaffold.Text
