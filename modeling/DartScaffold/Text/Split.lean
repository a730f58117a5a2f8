/-
**Cutting texts apart and putting them together.**

Names, paths, routes and generated code are all taken apart at separators and joined again.  The
operations work on lists of characters, where each is a short combination of list functions, and
are then stated for strings.

Main definitions:

* `Text.trimEnd`, `Text.strip`, `Text.stripEnd` — blanks or other characters removed from the ends;
* `Text.split`, `Text.join` — cutting at every occurrence of a character, and joining;
* `Text.cut?`, `Text.cutLast?` — cutting at the first or the last occurrence of a text;
* `Text.lines` — the lines of a text, where a carriage return with a line feed is one break;
* `Text.startsWith`, `Text.endsWith`, `Text.contains` — a text found inside another.

Main results:

* `Text.trimEnd_eq_nil_iff` — only a text of trimmed characters is trimmed to nothing;
* `Text.getLast?_trimEnd` — what trimming leaves ends in no trimmed character;
* `Text.toList_join` — the characters of a joined text;
* `Text.lineLists_eq_nil_iff` — only the empty text has no line.
-/

import DartScaffold.Text.Blank

set_option relaxedAutoImplicit false
set_option autoImplicit false

namespace DartScaffold.Text

/-! ### Trimming -/

/-- The characters without those at the end that satisfy `p`. -/
def trimEnd (p : Char → Bool) (cs : List Char) : List Char := (cs.reverse.dropWhile p).reverse

/-- The characters without those at either end that satisfy `p`. -/
def trim (p : Char → Bool) (cs : List Char) : List Char := trimEnd p (cs.dropWhile p)

theorem trimEnd_append_singleton (p : Char → Bool) (cs : List Char) (c : Char) :
    trimEnd p (cs ++ [c]) = if p c then trimEnd p cs else cs ++ [c] := by
  by_cases h : p c <;> simp [trimEnd, h]

/-- Only a text of trimmed characters is trimmed to nothing. -/
theorem trimEnd_eq_nil_iff (p : Char → Bool) (cs : List Char) :
    trimEnd p cs = [] ↔ ∀ c ∈ cs, p c = true := by
  have key : ∀ l : List Char, l.dropWhile p = [] ↔ ∀ c ∈ l, p c = true := by
    intro l
    induction l with
    | nil => simp
    | cons a l ih => by_cases h : p a <;> simp [h, ih]
  simp [trimEnd, key]

/-- What trimming leaves ends in no trimmed character. -/
theorem getLast?_trimEnd (p : Char → Bool) (cs : List Char) :
    ∀ c, (trimEnd p cs).getLast? = some c → p c = false := by
  intro c h
  rw [trimEnd, List.getLast?_reverse] at h
  have := List.head?_dropWhile_not p cs.reverse
  simp only [h] at this
  simpa using this

/-- A text without the blanks at its end. -/
def stripEnd (s : String) : String := String.ofList (trimEnd isBlank s.toList)

/-- A text without the blanks at its ends. -/
def strip (s : String) : String := String.ofList (trim isBlank s.toList)

/-- A text without the leading characters `c`. -/
def dropLeading (c : Char) (s : String) : String := String.ofList (s.toList.dropWhile (· == c))

/-- A text without the trailing characters `c`. -/
def dropTrailing (c : Char) (s : String) : String := String.ofList (trimEnd (· == c) s.toList)

/-- A text without the leading and trailing characters `c`. -/
def stripOf (c : Char) (s : String) : String := String.ofList (trim (· == c) s.toList)

/-! ### Splitting and joining -/

/-- The pieces of a text between the occurrences of a character. -/
def split (sep : Char) (s : String) : List String :=
  (s.toList.splitOn sep).map String.ofList

/-- The texts one after another with a separator between them. -/
def join (sep : String) (parts : List String) : String := sep.intercalate parts

@[simp] theorem toList_join (sep : String) (parts : List String) :
    (join sep parts).toList = List.intercalate sep.toList (parts.map String.toList) :=
  String.toList_intercalate

/-- A text of `n` spaces. -/
def spaces (n : Nat) : String := String.ofList (List.replicate n ' ')

/-! ### Lines -/

/-- The lines of a list of characters, without their breaks.  A break at the end begins no
further line. -/
def lineLists : List Char → List (List Char)
  | [] => []
  | '\r' :: '\n' :: rest => [] :: lineLists rest
  | c :: rest =>
    if isLineBreak c then [] :: lineLists rest
    else match lineLists rest with
      | [] => [[c]]
      | line :: more => (c :: line) :: more

/-- Only the empty text has no line. -/
theorem lineLists_eq_nil_iff (cs : List Char) : lineLists cs = [] ↔ cs = [] := by
  fun_cases lineLists cs <;> simp_all

/-- The lines of a text, without their breaks. -/
def lines (s : String) : List String := (lineLists s.toList).map String.ofList

/-! ### Looking for a text inside another -/

/-- The text begins with `p`. -/
def startsWith (p s : String) : Bool := p.toList.isPrefixOf s.toList

/-- The text ends with `p`. -/
def endsWith (p s : String) : Bool := p.toList.isSuffixOf s.toList

/-- The characters before and after the first occurrence of `sep`. -/
def cutList? (sep : List Char) : List Char → Option (List Char × List Char)
  | [] => if sep.isEmpty then some ([], []) else none
  | c :: rest =>
    if sep.isPrefixOf (c :: rest) then some ([], (c :: rest).drop sep.length)
    else (cutList? sep rest).map fun (before, after) => (c :: before, after)

/-- The parts of a text before and after the first occurrence of `sep`. -/
def cut? (sep s : String) : Option (String × String) :=
  (cutList? sep.toList s.toList).map fun (before, after) =>
    (String.ofList before, String.ofList after)

/-- The parts of a text before and after the last occurrence of `sep`. -/
def cutLast? (sep s : String) : Option (String × String) :=
  (cutList? sep.toList.reverse s.toList.reverse).map fun (after, before) =>
    (String.ofList before.reverse, String.ofList after.reverse)

/-- The text `sub` occurs in `s`. -/
def contains (sub s : String) : Bool := (cut? sub s).isSome

end DartScaffold.Text
