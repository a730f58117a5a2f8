/-
**Names are cut alike in every separated form.**

The words of a name are set apart by low lines, by hyphens, or as a label by blanks, and then each
has a capital.  Whatever the name was, such a form is cut where its words were put together and
nowhere else, so it has the words of the name.  All forms of a name are made from its words.
Therefore a separated form may stand for the name itself: it is its own form, and any other form of
it is that of the name.

Main definitions:

* `Naming.Alike` — names that are alike in every form.

Main results:

* `Naming.isWritten_capital`, `Naming.map_toLower_capital` — a word with a capital is a written
  word, and the word itself in small letters;
* `Naming.Alike.of_words` — names with the same words are alike;
* `Naming.words_separated` — **a separated form has the words of the name**, and is like it in every
  form.
-/

import Mathlib
import DartScaffold.Proofs.Naming.SharedFields

set_option relaxedAutoImplicit false
set_option autoImplicit false

namespace DartScaffold.Naming

/-! ### Words with capitals -/

section Capitals

variable {w : List Char}

/-- A word may be written with a capital. -/
theorem isWritten_capital (h : w ≠ [] ∧ ∀ c ∈ w, isWordLetter c = true) :
    IsWritten (capital w) := by
  obtain ⟨c, rest, rfl⟩ := List.exists_cons_of_ne_nil h.1
  obtain ⟨hc, hrest⟩ := List.forall_mem_cons.1 h.2
  exact ⟨c.toUpper, rest, rfl, isAlphanum_toUpper (isAlphanum_of_isWordLetter hc), hrest⟩

theorem map_toLower_capital (h : ∀ c ∈ w, isWordLetter c = true) :
    (capital w).map Char.toLower = w := by
  have hlower := map_toLower_of_isWordLetter h
  cases w with
  | nil => rfl
  | cons c rest =>
      rw [capital, List.map_cons, Char.toLower_toUpper_eq_toLower]
      exact hlower

end Capitals

/-- The words of a name, written with capitals. -/
def capitals (name : String) : List (List Char) := (wordLists name.toList).map capital

theorem isWritten_of_mem_capitals (name : String) : ∀ w ∈ capitals name, IsWritten w := by
  intro w hw
  obtain ⟨v, hv, rfl⟩ := List.mem_map.1 hw
  exact isWritten_capital (mem_wordLists hv)

theorem map_toLower_capitals (name : String) :
    (capitals name).map (List.map Char.toLower) = wordLists name.toList := by
  rw [capitals, List.map_map]
  refine (List.map_congr_left fun w hw => ?_).trans (List.map_id _)
  exact map_toLower_capital (mem_wordLists hw).2

/-- The characters of the words of a name when each has a capital. -/
theorem map_toList_capitalize (name : String) :
    ((words name).map capitalize).map String.toList = capitals name := by
  rw [words, capitals, List.map_map, List.map_map]
  refine List.map_congr_left fun w _ => ?_
  rw [Function.comp_apply, Function.comp_apply, toList_capitalize, String.toList_ofList]

/-! ### Separated forms -/

theorem words_kebab (name : String) : words (kebab name) = words name :=
  words_join (c := '-') rfl (by decide) fun _ hw => isWord_of_mem hw

theorem words_title (name : String) : words (title name) = words name := by
  have hcut : wordLists ([' '].intercalate (capitals name)) = _ :=
    wordLists_intercalate_written (by decide) (isWritten_of_mem_capitals name)
  rw [words, title, Text.toList_join, map_toList_capitalize, show " ".toList = [' '] from rfl,
    hcut, map_toLower_capitals, words]

/-! ### Names that are alike -/

/-- Names that are alike in every form. -/
structure Alike (name name' : String) : Prop where
  snake : Naming.snake name = Naming.snake name'
  kebab : Naming.kebab name = Naming.kebab name'
  camel : Naming.camel name = Naming.camel name'
  pascal : Naming.pascal name = Naming.pascal name'
  title : Naming.title name = Naming.title name'

/-- Names with the same words are alike. -/
theorem Alike.of_words {name name' : String} (h : words name = words name') :
    Alike name name' where
  snake := by rw [Naming.snake, h, Naming.snake]
  kebab := by rw [Naming.kebab, h, Naming.kebab]
  camel := by rw [Naming.camel, h, Naming.camel]
  pascal := by rw [Naming.pascal, h, Naming.pascal]
  title := by rw [Naming.title, h, Naming.title]

/-- **Names are cut alike in every separated form.**  The words of a name hold its letters and
digits in order, in small letters.  Set apart by low lines, by hyphens, or by blanks and with
capitals, they are found again.  So a separated form is its own form, and it is like the name in
every form. -/
theorem words_separated (name : String) :
    (words name).flatMap String.toList = (name.toList.filter Char.isAlphanum).map Char.toLower ∧
      (words (snake name) = words name ∧ words (kebab name) = words name ∧
        words (title name) = words name) ∧
      (snake (snake name) = snake name ∧ kebab (kebab name) = kebab name ∧
        title (title name) = title name) ∧
      Alike (snake name) name ∧ Alike (kebab name) name ∧ Alike (title name) name := by
  have hsnake := Alike.of_words (words_snake name)
  have hkebab := Alike.of_words (words_kebab name)
  have htitle := Alike.of_words (words_title name)
  refine ⟨?_, ⟨words_snake name, words_kebab name, words_title name⟩,
    ⟨hsnake.snake, hkebab.kebab, htitle.title⟩, hsnake, hkebab, htitle⟩
  rw [← flatten_wordLists, words, List.flatMap_map]
  simp only [String.toList_ofList, List.flatMap_id']

example : words "XMLHttpRequest2Go" = ["xml", "http", "request2", "go"] ∧
    title "XMLHttpRequest2Go" = "Xml Http Request2 Go" ∧
    words "Xml Http Request2 Go" = ["xml", "http", "request2", "go"] := by decide +kernel

end DartScaffold.Naming
