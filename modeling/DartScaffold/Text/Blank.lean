/-
**Blank characters and line breaks.**

Trimming, splitting at blanks and dropping trailing blanks all use one notion of a blank
character: the spaces, tabs and line breaks of Unicode together with the four information
separators.  A line break is one of ten characters; a carriage return followed by a line feed is
one break, which `Text.lines` in `Text.Split` takes into account.

Main definitions:

* `Text.isBlank` — a character that trimming removes;
* `Text.isLineBreak` — a character that ends a line.

Main results:

* `Text.isBlank_of_isLineBreak` — a line break is blank.
-/

import DartScaffold.Text.CodePoints

set_option relaxedAutoImplicit false
set_option autoImplicit false

namespace DartScaffold.Text

/-- The blank characters of Unicode, with the information separators. -/
def blanks : CodePoints := ⟨[
  (0x9, 0xd), (0x1c, 0x20), (0x85, 0x85), (0xa0, 0xa0), (0x1680, 0x1680), (0x2000, 0x200a),
  (0x2028, 0x2029), (0x202f, 0x202f), (0x205f, 0x205f), (0x3000, 0x3000)]⟩

/-- A blank character: trimming a text removes it from the ends. -/
def isBlank (c : Char) : Bool := blanks.contains c

/-- A character that ends a line. -/
def isLineBreak (c : Char) : Bool :=
  (⟨[(0x0a, 0x0d), (0x1c, 0x1e), (0x85, 0x85), (0x2028, 0x2029)]⟩ : CodePoints).contains c

/-- Every line break is blank. -/
theorem isBlank_of_isLineBreak {c : Char} (h : isLineBreak c = true) : isBlank c = true := by
  simp [isLineBreak, isBlank, blanks, CodePoints.contains] at h ⊢
  omega

end DartScaffold.Text
