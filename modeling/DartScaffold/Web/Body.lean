/-
**The body of an answer.**

A document on the web is sent as bytes, and nothing says how they write its characters.  The zeros
among the first four bytes tell it, for a document begins with two characters of one byte: without
zeros the bytes are those of UTF-8, with a byte order mark or none.  A body of less than four bytes,
or one whose zeros tell nothing, is taken as it reads best: as UTF-8 if nearly all of it is
printable, and else in units of two bytes if all of that is.

Main definitions:

* `Web.Written`, `Web.Written.ofStart?` — how the bytes write the characters;
* `Web.guessed` — how a body reads best;
* `Web.bodyText` — the text of a body.
-/

import DartScaffold.Text.Blank
import DartScaffold.Text.Printable
import DartScaffold.Text.Wide

set_option relaxedAutoImplicit false
set_option autoImplicit false

namespace DartScaffold.Web

open Text.Wide (Coding)

/-! ### Byte order marks -/

/-- A text without the byte order mark that may stand before it. -/
def withoutMark (body : String) : String :=
  match body.toList with
  | '\uFEFF' :: rest => String.ofList rest
  | _ => body

/-! ### How bytes write characters -/

/-- How bytes write characters. -/
inductive Written where
  | narrow
  | wide (coding : Coding)
deriving DecidableEq, Repr

/-- How the bytes of a document that begins with the given four write characters. -/
def Written.ofFour? (a b c d : UInt8) : Option Written :=
  match a == 0, b == 0, c == 0, d == 0 with
  | false, false, false, false => some .narrow
  | true, false, true, false => some (.wide ⟨false, true⟩)
  | false, true, false, true => some (.wide ⟨false, false⟩)
  | true, true, true, false => some (.wide ⟨true, true⟩)
  | false, true, true, true => some (.wide ⟨true, false⟩)
  | _, _, _, _ => none

/-- How bytes write characters, by the zeros among the first four. -/
def Written.ofStart? : List UInt8 → Option Written
  | a :: b :: c :: d :: _ => Written.ofFour? a b c d
  | _ => none

/-! ### Guessing -/

/-- A character that is neither printable nor blank. -/
def isOdd (c : Char) : Bool :=
  !Text.isPrintable c && !Text.isBlank c && c != '\x1a' && c != '\uFEFF'

/-- Whether more than one character in forty is odd. -/
def isOddText (s : String) : Bool :=
  let odd := s.toList.countP isOdd
  odd != 0 && s.length ≤ 40 * odd

/-- How a body reads best. -/
def guessed (body : String) (bytes : List UInt8) : String :=
  if isOddText body then
    let readings := [true, false].filterMap fun highFirst => Coding.decode? ⟨false, highFirst⟩ bytes
    (readings.find? fun s => !isOddText s).getD body
  else withoutMark body

/-- The text of a body, which is given by what it writes as UTF-8. -/
def bodyText (body : String) : String :=
  let bytes := body.toUTF8.toList
  let told :=
    match Written.ofStart? bytes with
    | some .narrow => some (withoutMark body)
    | some (.wide coding) => coding.decode? bytes
    | none => none
  told.getD (guessed body bytes)

end DartScaffold.Web
