/-
**The layout of generated code.**

Generated code is tidied before it is written: blanks at the end of a line are dropped, blank lines
in a row become one, there is none at the beginning or the end, and the last line is ended by a
line feed.  Documentation is written as comments of three slashes, one for each line.

Main definitions:

* `Dart.tidyLines`, `Dart.tidy` — the layout;
* `Dart.comment` — a comment for documentation.

Main results:

* `Dart.tidyLines_ne_blank` — behind a blank line no further one is kept;
* `Dart.comment_empty` — nothing to say is no comment.
-/

import DartScaffold.Text.Split

set_option relaxedAutoImplicit false
set_option autoImplicit false

namespace DartScaffold.Dart

/-! ### Tidy lines -/

/-- The lines without blanks at their ends, and of blank lines in a row the first one only.  The
lines follow a blank one or the beginning if `afterBlank` holds. -/
def tidyLines : (afterBlank : Bool) → List (List Char) → List (List Char)
  | _, [] => []
  | afterBlank, line :: rest =>
    let kept := Text.trimEnd Text.isBlank line
    if kept.isEmpty then
      if afterBlank then tidyLines true rest else [] :: tidyLines true rest
    else kept :: tidyLines false rest

/-- Behind a blank line no further one is kept. -/
theorem tidyLines_ne_blank (lines : List (List Char)) :
    (tidyLines true lines).head? ≠ some [] := by
  induction lines with
  | nil => simp [tidyLines]
  | cons line rest ih =>
    simp only [tidyLines, if_true]
    split
    · exact ih
    · rename_i h
      simp only [List.head?_cons, ne_eq, Option.some.injEq]
      simpa using h

/-- The lines without the blank ones at the end. -/
def dropBlankEnd (lines : List (List Char)) : List (List Char) :=
  (lines.reverse.dropWhile List.isEmpty).reverse

/-- The tidy lines of a text. -/
def codeLines (code : String) : List (List Char) :=
  dropBlankEnd (tidyLines true (code.toList.splitOn '\n'))

/-- Code in its layout. -/
def tidy (code : String) : String :=
  Text.join "\n" ((codeLines code).map String.ofList) ++ "\n"

/-! ### Comments -/

/-- A text as a comment for documentation, moved to the right. -/
def comment (width : Nat) (s : String) : String :=
  Text.join "\n" ((Text.lines s).map fun line =>
    Text.stripEnd (Text.spaces width ++ "/// " ++ line))

/-- Nothing to say is no comment. -/
theorem comment_empty (width : Nat) : comment width "" = "" := rfl

end DartScaffold.Dart
