/-
**The words of a name.**

Names come as `blog_post`, `blogPost`, `BlogPost` or `Blog post`, and every generated name is built
from the words in them.  A word ends at any character that is no ASCII letter or digit, and before
a capital that follows a small letter or a digit, or that follows a capital and is followed by a
small letter, so that `HTTPServer` has the words `http` and `server`.  Words are kept in small
letters.

Main definitions:

* `Naming.words` — the words of a name;
* `Naming.Case`, `Naming.Case.form` — the ways of writing a name;
* `Naming.snake`, `Naming.kebab`, `Naming.camel`, `Naming.pascal`, `Naming.title` — the forms of a
  name.

Main results:

* `Naming.words_empty` — the empty name has no words;
* `Naming.not_of_mem_splitOnP` — no piece of a cut text holds a character that it was cut at.
-/

import DartScaffold.Datum.Display

set_option relaxedAutoImplicit false
set_option autoImplicit false

namespace DartScaffold.Naming

/-! ### Words -/

/-- A capital begins a word if it follows a small letter or a digit, or if it follows a capital
and a small letter follows it. -/
def beginsWord (previous next : Option Char) (c : Char) : Bool :=
  c.isUpper && previous.any fun p =>
    p.isLower || p.isDigit || (p.isUpper && next.any Char.isLower)

/-- The characters of a name with a low line before each capital that begins a word. -/
def markWords (previous : Option Char) : List Char → List Char
  | [] => []
  | c :: rest =>
    let marked := c :: markWords (some c) rest
    if beginsWord previous rest.head? c then '_' :: marked else marked

/-- The words of a list of characters. -/
def wordLists (cs : List Char) : List (List Char) :=
  (((markWords none cs).splitOnP fun c => !c.isAlphanum).filter fun w => !w.isEmpty).map
    fun w => w.map Char.toLower

/-- The words of a name. -/
def words (name : String) : List String := (wordLists name.toList).map String.ofList

@[simp] theorem words_empty : words "" = [] := rfl

/-- No piece holds a character that it was cut at. -/
theorem not_of_mem_splitOnP {p : Char → Bool} {cs piece : List Char}
    (h : piece ∈ cs.splitOnP p) : ∀ c ∈ piece, p c = false := by
  induction cs generalizing piece with
  | nil =>
    intro c hc
    simp only [List.splitOnP_nil, List.mem_singleton] at h
    simp [h] at hc
  | cons a cs ih =>
    rw [List.splitOnP_cons_eq_if_modifyHead] at h
    by_cases ha : p a = true
    · simp only [ha, if_true, List.mem_cons] at h
      rcases h with rfl | h
      · simp
      · exact ih h
    · simp only [ha, if_neg, Bool.false_eq_true, not_false_eq_true] at h
      cases hs : cs.splitOnP p with
      | nil => simp [hs] at h
      | cons first more =>
        rw [hs] at ih
        simp only [hs, List.modifyHead_cons, List.mem_cons] at h
        rcases h with rfl | h
        · intro c hc
          rcases List.mem_cons.1 hc with rfl | hc
          · simpa using ha
          · exact ih (List.mem_cons_self ..) c hc
        · exact ih (List.mem_cons_of_mem _ h)

/-- The text that a value has as a name: it is displayed, but one that counts as nothing has no
words. -/
def source (d : Datum) : String := if d.truthy then d.display else ""

@[simp] theorem source_text (s : String) : source (.text s) = s := by
  by_cases h : s = "" <;> simp [source, h]

/-! ### Forms -/

/-- A word with a capital at its beginning. -/
def capitalize (w : String) : String :=
  match w.toList with
  | [] => ""
  | c :: rest => String.ofList (c.toUpper :: rest)

/-- The words in small letters with low lines between them. -/
def snake (name : String) : String := Text.join "_" (words name)

/-- The words in small letters with hyphens between them. -/
def kebab (name : String) : String := Text.join "-" (words name)

/-- The words run together, each but the first with a capital. -/
def camel (name : String) : String :=
  match words name with
  | [] => ""
  | w :: rest => w ++ Text.join "" (rest.map capitalize)

/-- The words run together, each with a capital. -/
def pascal (name : String) : String := Text.join "" ((words name).map capitalize)

/-- The words with capitals and blanks between them, as a label. -/
def title (name : String) : String := Text.join " " ((words name).map capitalize)

/-- A way of writing a name. -/
inductive Case where
  | snake
  | camel
  | pascal
  | kebab
deriving DecidableEq, Repr

/-- The name of a way of writing. -/
def Case.name : Case → String
  | .snake => "snake"
  | .camel => "camel"
  | .pascal => "pascal"
  | .kebab => "kebab"

/-- The ways of writing. -/
def Case.all : List Case := [.snake, .camel, .pascal, .kebab]

/-- The way of writing with a given name. -/
def Case.ofName? (name : String) : Option Case := Case.all.find? (·.name == name)

/-- A name in one way of writing. -/
def Case.form : Case → String → String
  | .snake => Naming.snake
  | .camel => Naming.camel
  | .pascal => Naming.pascal
  | .kebab => Naming.kebab

end DartScaffold.Naming
