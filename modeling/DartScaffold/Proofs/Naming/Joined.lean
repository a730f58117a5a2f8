/-
**The words of joined words.**

Names of files and paths of resources are words with a low line or a hyphen between them.  They are
taken apart and joined again on the way: what belongs to a model is named by the words of the model
and further ones, and the path of its file is made from that name.  Nothing is lost by this.  Words
with a character between them that is none of a word are found again, so a name in small letters is
its own form, and names with the same form have the same words.

Main definitions:

* `Naming.IsWord` — a word as it is kept;
* `Naming.isSmall` — small letters, digits and low lines only.

Main results:

* `Naming.words_join` — **joined words are found again**;
* `Naming.snake_join`, `Naming.snake_inj` — a name in small letters is its own form, and which names
  have the same one;
* `Naming.exists_last_word` — another word may stand in the place of the last one;
* `Naming.flatten_wordLists` — the words are the letters and digits in order;
* `Naming.words_eq_nil_iff`, `Naming.snake_eq_empty_iff` — a name without words has neither.
-/

import Mathlib
import DartScaffold.Proofs.Naming.Written

set_option relaxedAutoImplicit false
set_option autoImplicit false

namespace DartScaffold.Naming

/-! ### Joined words -/

/-- A word as it is kept: not empty, and of small letters and digits. -/
def IsWord (w : String) : Prop := w.toList ≠ [] ∧ ∀ c ∈ w.toList, isWordLetter c = true

instance (w : String) : Decidable (IsWord w) :=
  decidable_of_iff (w.toList ≠ [] ∧ w.toList.all isWordLetter = true)
    (and_congr_right fun _ => List.all_eq_true)

theorem isWord_of_mem {name w : String} (h : w ∈ words name) : IsWord w := mem_words h

theorem mem_intercalate {sep : List Char} {c : Char} {pieces : List (List Char)}
    (h : c ∈ sep.intercalate pieces) : c ∈ sep ∨ ∃ w ∈ pieces, c ∈ w := by
  induction pieces with
  | nil => exact absurd h List.not_mem_nil
  | cons w rest ih =>
      cases rest with
      | nil =>
          rw [List.intercalate_singleton] at h
          exact .inr ⟨w, List.mem_cons_self .., h⟩
      | cons v rest =>
          rw [List.intercalate_cons_cons] at h
          rcases List.mem_append.1 h with h | h
          · exact (List.mem_append.1 h).symm.imp_right fun h => ⟨w, List.mem_cons_self .., h⟩
          obtain hc | ⟨u, hu, hc⟩ := ih h
          · exact .inl hc
          · exact .inr ⟨u, List.mem_cons_of_mem _ hu, hc⟩

/-- The words of a text in which words are put together. -/
theorem wordLists_intercalate {sep : Char} (hsep : sep.isAlphanum = false)
    {pieces : List (List Char)}
    (h : ∀ w ∈ pieces, w ≠ [] ∧ ∀ c ∈ w, isWordLetter c = true) :
    wordLists ([sep].intercalate pieces) = pieces := by
  rw [wordLists_intercalate_written hsep fun w hw => isWritten_of_isWordLetter (h w hw)]
  refine (List.map_congr_left fun w hw => ?_).trans (List.map_id pieces)
  exact map_toLower_of_isWordLetter (h w hw).2

/-- **Joined words are found again**, if what stands between them is none of a word. -/
theorem words_join {sep : String} {c : Char} (hsep : sep.toList = [c]) (hc : c.isAlphanum = false)
    {ws : List String} (h : ∀ w ∈ ws, IsWord w) : words (Text.join sep ws) = ws := by
  have hpieces : ∀ w ∈ ws.map String.toList, w ≠ [] ∧ ∀ c ∈ w, isWordLetter c = true := by
    intro w hw
    obtain ⟨v, hv, rfl⟩ := List.mem_map.1 hw
    exact h v hv
  rw [words, Text.toList_join, hsep, wordLists_intercalate hc hpieces, List.map_map]
  refine (List.map_congr_left fun w _ => ?_).trans (List.map_id ws)
  exact String.ofList_toList

/-! ### Names in small letters -/

/-- Small letters, digits and low lines only. -/
def isSmall (w : String) : Bool := w.toList.all fun c => isWordLetter c || c == '_'

theorem isSmall_append {s t : String} : isSmall (s ++ t) = (isSmall s && isSmall t) := by
  rw [isSmall, String.toList_append, List.all_append]
  rfl

theorem isSmall_join {ws : List String} (h : ∀ w ∈ ws, IsWord w) :
    isSmall (Text.join "_" ws) = true := by
  refine List.all_eq_true.2 fun c hc => ?_
  rw [Text.toList_join] at hc
  obtain hline | ⟨w, hw, hc⟩ := mem_intercalate hc
  · rw [List.mem_singleton.1 hline]
    rfl
  · obtain ⟨v, hv, rfl⟩ := List.mem_map.1 hw
    rw [(h v hv).2 c hc, Bool.true_or]

/-- Other characters do not stand in such a text. -/
theorem not_mem_of_isSmall {w : String} (h : isSmall w = true) {c : Char}
    (hc : isWordLetter c = false ∧ c ≠ '_') : c ∉ w.toList := by
  intro hmem
  have hsmall := List.all_eq_true.1 h c hmem
  rw [hc.1, Bool.false_or] at hsmall
  exact hc.2 (beq_iff_eq.1 hsmall)

theorem isSmall_snake (name : String) : isSmall (snake name) = true :=
  isSmall_join fun _ hw => isWord_of_mem hw

/-- Words with low lines between them are in their form. -/
theorem snake_join {ws : List String} (h : ∀ w ∈ ws, IsWord w) :
    snake (Text.join "_" ws) = Text.join "_" ws := by
  rw [snake, words_join (c := '_') rfl (by decide) h]

theorem words_snake (name : String) : words (snake name) = words name :=
  words_join (c := '_') rfl (by decide) fun _ hw => isWord_of_mem hw

/-- Names with the same form have the same words. -/
theorem snake_inj {name name' : String} : snake name = snake name' ↔ words name = words name' := by
  constructor
  · intro h
    rw [← words_snake name, h, words_snake]
  · intro h
    rw [snake, h, ← snake]

/-- What stands before the last of joined texts does not depend on it. -/
theorem join_concat (sep : String) (init : List String) (last : String) :
    Text.join sep (init ++ [last]) = Text.join sep (init ++ [""]) ++ last := by
  by_cases h : init = []
  · rw [h, List.nil_append, List.nil_append, Text.join, Text.join, String.intercalate_singleton,
      String.intercalate_singleton, String.empty_append]
  · have hcons : ∀ v : String, Text.join sep (init ++ [v]) = Text.join sep init ++ sep ++ v := by
      intro v
      rw [Text.join, String.intercalate_append_of_ne_nil h (List.cons_ne_nil _ _),
        String.intercalate_singleton]
      rfl
    rw [hcons, hcons, String.append_empty]

/-- A name in small letters has a last word, and another one may stand in its place. -/
theorem exists_last_word {name : String} (h : words name ≠ []) :
    ∃ before last, snake name = before ++ last ∧ IsWord last ∧
      ∀ v, IsWord v → snake (before ++ v) = before ++ v := by
  obtain ⟨init, last, hwords⟩ := (List.eq_nil_or_concat' (words name)).resolve_left h
  have hall : ∀ w ∈ init ++ [last], IsWord w := fun w hw => isWord_of_mem (hwords ▸ hw)
  obtain ⟨hinit, hlast⟩ := List.forall_mem_append.1 hall
  refine ⟨Text.join "_" (init ++ [""]), last, ?_, List.forall_mem_singleton.1 hlast,
    fun v hv => ?_⟩
  · rw [snake, hwords, join_concat]
  · rw [← join_concat]
    exact snake_join (List.forall_mem_append.2 ⟨hinit, List.forall_mem_singleton.2 hv⟩)

/-! ### Names without words -/

/-- The pieces of a text are what it was not cut at. -/
theorem flatten_splitOnP (p : Char → Bool) (cs : List Char) :
    (cs.splitOnP p).flatten = cs.filter fun c => !p c := by
  induction cs with
  | nil => rfl
  | cons c cs ih =>
      rw [List.splitOnP_cons_eq_if_modifyHead, List.filter_cons]
      cases hc : p c with
      | true => simpa using ih
      | false =>
          cases hs : cs.splitOnP p with
          | nil => exact absurd hs (List.splitOnP_ne_nil p cs)
          | cons first more =>
              rw [hs, List.flatten_cons] at ih
              simp only [Bool.false_eq_true, if_false, List.modifyHead_cons, List.flatten_cons,
                List.cons_append, ih, Bool.not_false, if_true]

/-- The marks between words are neither letters nor digits. -/
theorem filter_markWords (previous : Option Char) (cs : List Char) :
    (markWords previous cs).filter Char.isAlphanum = cs.filter Char.isAlphanum := by
  induction cs generalizing previous with
  | nil => rfl
  | cons c cs ih =>
      have hmark : ('_' : Char).isAlphanum = false := by decide
      cases hbegins : beginsWord previous cs.head? c with
      | true => simp [markWords, hbegins, hmark, List.filter_cons, ih]
      | false => simp [markWords, hbegins, List.filter_cons, ih]

/-- The words are the letters and digits in order. -/
theorem flatten_wordLists (cs : List Char) :
    (wordLists cs).flatten = (cs.filter Char.isAlphanum).map Char.toLower := by
  have hempty : ∀ pieces : List (List Char),
      (pieces.filter fun w => !w.isEmpty).flatten = pieces.flatten := by
    intro pieces
    exact List.flatten_filter_not_isEmpty
  have hletters := flatten_splitOnP (fun c => !c.isAlphanum) (markWords none cs)
  simp only [Bool.not_not] at hletters
  rw [wordLists, ← List.map_flatten, hempty, hletters, filter_markWords]

/-- A name has words exactly if it has letters or digits. -/
theorem words_eq_nil_iff (name : String) :
    words name = [] ↔ ∀ c ∈ name.toList, c.isAlphanum = false := by
  have hnil : wordLists name.toList = [] ↔ (wordLists name.toList).flatten = [] := by
    constructor
    · intro h
      rw [h]
      rfl
    · intro h
      rw [List.flatten_eq_nil_iff] at h
      exact List.eq_nil_iff_forall_not_mem.2 fun w hw => (mem_wordLists hw).1 (h w hw)
  rw [words, List.map_eq_nil_iff, hnil, flatten_wordLists, List.map_eq_nil_iff,
    List.filter_eq_nil_iff]
  refine forall₂_congr fun c _ => ?_
  rw [Bool.not_eq_true]

theorem snake_eq_empty_iff (name : String) : snake name = "" ↔ words name = [] := by
  constructor
  · intro h
    rw [← words_snake, h, words_empty]
  · intro h
    rw [snake, h]
    rfl

end DartScaffold.Naming
