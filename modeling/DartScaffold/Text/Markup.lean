/-
**Text with markup.**

A console takes words in square brackets for markup.  A tag opens a style, and with a slash in front
it closes one that is open; an odd number of backslashes before the bracket takes the meaning of a
tag away.  What closes a style that is not open is a mistake, and such a text is not shown.

Main definitions:

* `Text.Markup.tag?` — the tag that a bracket begins;
* `Text.Markup.unmatched?` — the first tag that closes a style which is not open;
* `Text.Markup.IsInOrder` — every tag that closes a style closes one that is open.
-/

set_option relaxedAutoImplicit false
set_option autoImplicit false

namespace DartScaffold.Text.Markup

/-! ### Tags -/

/-- The characters that the tag of a style begins with.  The tag of an action begins with an at sign
and is passed over here: it opens no style. -/
def beginsTag (c : Char) : Bool := c.isLower || c == '#' || c == '/'

/-- What stands before the next closing bracket, if no bracket is opened before it. -/
def upToBracket? : List Char → Option (List Char)
  | [] => none
  | c :: rest =>
    if c = ']' then some [] else if c = '[' then none else (upToBracket? rest).map (c :: ·)

/-- The tag that a bracket begins with these characters behind it. -/
def tag? : List Char → Option (List Char)
  | [] => none
  | c :: rest => if beginsTag c then (upToBracket? rest).map (c :: ·) else none

/-- The style that a tag names.  What follows an equals sign says more about it. -/
def styleOf (tag : List Char) : List Char := tag.takeWhile (· != '=')

/-- The styles that are open behind a tag; none, if it closes one that is not open. -/
def afterTag? (opened : List (List Char)) : (tag : List Char) → Option (List (List Char))
  | '/' :: tag => if styleOf tag ∈ opened then some (opened.erase (styleOf tag)) else none
  | tag => some (styleOf tag :: opened)

/-! ### Order -/

/-- The first tag that closes a style which is not open.  How a text is read depends on whether a
backslash stands before it, and on the styles that are open. -/
def unmatched? (escaped : Bool) (opened : List (List Char)) : List Char → Option (List Char)
  | [] => none
  | c :: rest =>
    if c = '\\' then unmatched? (!escaped) opened rest
    else if c = '[' ∧ escaped = false then
      match tag? rest with
      | none => unmatched? false opened rest
      | some tag =>
        match afterTag? opened tag with
        | none => some tag
        | some opened => unmatched? false opened rest
    else unmatched? false opened rest

/-- Every tag that closes a style closes one that is open. -/
def IsInOrder (s : String) : Prop := unmatched? false [] s.toList = none

instance : DecidablePred IsInOrder := fun s =>
  decidable_of_iff (unmatched? false [] s.toList = none) Iff.rfl

end DartScaffold.Text.Markup
