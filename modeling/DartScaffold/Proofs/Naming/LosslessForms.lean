/-
**When words that are run together are told apart again.**

With capitals the words of a name are run together, all of them or all but the first, and nothing
stands between them.  When such a form is cut into words, a word is found only if it is seen to
begin.  It must begin with a letter, since a digit has no capital.  Behind a small letter or a digit
the capital is enough.  But behind a word of one letter there is a capital in front of it, and two
capitals are taken for one run unless a small letter follows the second.  A word that is not seen to
begin becomes a part of the one before it, so the form has as many words as the name exactly if it
has the same ones.

Main definitions:

* `Naming.isSeen` — a word is seen to begin behind another one;
* `Naming.merged` — words, put together where the second one is not seen;
* `Naming.hasLetterAt` — the character of a word at a place is a letter.

Main results:

* `Naming.wordLists_flatten` — words that are run together are found again as far as they are seen;
* `Naming.length_merged_eq_iff` — nothing is put together exactly if every word is seen;
* `Naming.isSeen_capital`, `Naming.isSeen_first` — when a word with a capital is seen;
* `Naming.snake_pascal_eq_iff` — **for which names nothing is lost** when their words are run
  together.
-/

import Mathlib
import DartScaffold.Proofs.Naming.SeparatedForms

set_option relaxedAutoImplicit false
set_option autoImplicit false

namespace DartScaffold.Naming

/-! ### Words that are not seen -/

/-- The word `v` is seen to begin behind the word `w`. -/
def isSeen (w v : List Char) : Bool := seenToBegin w.getLast? v []

/-- Words, each put together with the next one if that is not seen to begin. -/
def merged : List (List Char) → List (List Char)
  | [] => []
  | [w] => [w]
  | w :: v :: rest =>
    if isSeen w v then w :: merged (v :: rest) else (merged (v :: rest)).modifyHead (w ++ ·)

variable {w v : List Char} {ws pieces : List (List Char)}

theorem length_merged_le (ws : List (List Char)) : (merged ws).length ≤ ws.length := by
  induction ws with
  | nil => exact le_refl _
  | cons w ws ih =>
      cases ws with
      | nil => exact le_refl _
      | cons v rest =>
          rw [merged]
          split_ifs
          · exact Nat.succ_le_succ ih
          · rw [List.length_modifyHead]
            exact ih.trans (Nat.le_succ _)

/-- There are as many words as before exactly if every one is seen behind the one before it. -/
theorem length_merged_eq_iff (ws : List (List Char)) :
    (merged ws).length = ws.length ↔ ws.IsChain fun w v => isSeen w v = true := by
  induction ws with
  | nil => simp [merged]
  | cons w ws ih =>
      cases ws with
      | nil => simp [merged]
      | cons v rest =>
          rw [List.isChain_cons_cons, ← ih, merged]
          cases isSeen w v with
          | true => simp
          | false =>
              -- One word is lost, and no other can make up for it.
              have hshorter := length_merged_le (v :: rest)
              simp only [Bool.false_eq_true, if_false, false_and, iff_false, List.length_modifyHead,
                List.length_cons] at hshorter ⊢
              omega

/-- Words that are all seen stay as they are. -/
theorem merged_of_isChain (h : ws.IsChain fun w v => isSeen w v = true) : merged ws = ws := by
  induction ws with
  | nil => rfl
  | cons w ws ih =>
      cases ws with
      | nil => rfl
      | cons v rest =>
          obtain ⟨hseen, hrest⟩ := List.isChain_cons_cons.1 h
          rw [merged, if_pos hseen, ih hrest]

theorem ne_nil_of_mem_merged (h : ∀ w ∈ ws, w ≠ []) : ∀ w ∈ merged ws, w ≠ [] := by
  induction ws with
  | nil => exact h
  | cons w ws ih =>
      obtain ⟨hw, hws⟩ := List.forall_mem_cons.1 h
      have ih := ih hws
      cases ws with
      | nil => exact h
      | cons v rest =>
          rw [merged]
          split_ifs
          · exact List.forall_mem_cons.2 ⟨hw, ih⟩
          · generalize merged (v :: rest) = found at ih
            cases found with
            | nil => exact ih
            | cons u found =>
                obtain ⟨-, hfound⟩ := List.forall_mem_cons.1 ih
                exact List.forall_mem_cons.2 ⟨List.append_ne_nil_of_left_ne_nil hw u, hfound⟩

/-! ### Words that are run together -/

/-- What is not cut belongs to the first piece of what follows it. -/
theorem splitOnP_append {p : Char → Bool} (h : ∀ c ∈ w, p c = false) (rest : List Char) :
    (w ++ rest).splitOnP p = (rest.splitOnP p).modifyHead (w ++ ·) := by
  induction w with
  | nil =>
      show rest.splitOnP p = (rest.splitOnP p).modifyHead id
      rw [List.modifyHead_id]
      rfl
  | cons c w ih =>
      obtain ⟨hc, hw⟩ := List.forall_mem_cons.1 h
      rw [List.cons_append, List.splitOnP_cons_eq_if_modifyHead, hc, ih hw]
      simp only [Bool.false_eq_true, if_false, List.modifyHead_modifyHead]
      rfl

/-- A word that may stand behind another one in a form: it does not begin with a small letter. -/
def IsFollowing (w : List Char) : Prop := IsWritten w ∧ ∀ c ∈ w.head?, c.isLower = false

theorem head?_flatten (h : ∀ w ∈ ws, IsFollowing w) :
    ∀ c ∈ ws.flatten.head?, c.isLower = false := by
  cases ws with
  | nil => exact fun c hc => nomatch hc
  | cons w ws =>
      obtain ⟨⟨hwritten, hhead⟩, -⟩ := List.forall_mem_cons.1 h
      obtain ⟨c, rest, rfl, -⟩ := hwritten
      exact hhead

/-- What stands behind a word matters only if it begins with a small letter. -/
theorem seenToBegin_of_not_isLower {rest : List Char} (h : ∀ c ∈ rest.head?, c.isLower = false)
    (previous : Option Char) (w : List Char) :
    seenToBegin previous w rest = seenToBegin previous w [] := by
  cases w with
  | nil => rfl
  | cons c more =>
      show beginsWord previous (more ++ rest).head? c = beginsWord previous (more ++ []).head? c
      cases more with
      | nil =>
          have hnext : rest.head?.any Char.isLower = false := by
            rw [Option.any_eq_false]
            simpa using h
          rw [List.nil_append, List.nil_append, beginsWord, beginsWord, hnext]
          rfl
      | cons d more => rfl

/-- Marked and cut, words that are run together are those that are seen. -/
theorem splitOnP_flatten (hw : IsWritten w) (h : ∀ v ∈ ws, IsFollowing v) :
    (w ++ markWords w.getLast? ws.flatten).splitOnP (fun c => !c.isAlphanum) =
      merged (w :: ws) := by
  have hletters : ∀ {w}, IsWritten w → ∀ c ∈ w, (!c.isAlphanum) = false := by
    intro w hw c hc
    rw [hw.isAlphanum c hc, Bool.not_true]
  -- The induction is on the words that follow, whatever the first one is.
  induction ws generalizing w with
  | nil =>
      rw [List.flatten_nil, markWords, List.append_nil, List.splitOnP_eq_singleton (hletters hw),
        merged]
  | cons v ws ih =>
      obtain ⟨⟨hv, -⟩, hws⟩ := List.forall_mem_cons.1 h
      have hseen : seenToBegin w.getLast? v ws.flatten = isSeen w v :=
        seenToBegin_of_not_isLower (head?_flatten hws) _ v
      rw [List.flatten_cons, hv.markWords_append, hseen, merged, ← ih hv hws]
      cases isSeen w v with
      | true =>
          exact List.splitOnP_append_cons_of_forall_mem (hletters hw) '_' (by decide) _
      | false => exact splitOnP_append (hletters hw) _

/-- **Words that are run together are found again as far as they are seen.** -/
theorem wordLists_flatten (hw : IsWritten w) (h : ∀ v ∈ ws, IsFollowing v) :
    wordLists (w :: ws).flatten = (merged (w :: ws)).map (List.map Char.toLower) := by
  have hmark : markWords none (w ++ ws.flatten) = w ++ markWords w.getLast? ws.flatten := by
    rw [hw.markWords_append, seenToBegin_of_not_isAlphanum (by simp)]
    rfl
  have hne : ∀ u ∈ merged (w :: ws), u ≠ [] :=
    ne_nil_of_mem_merged (List.forall_mem_cons.2 ⟨hw.ne_nil, fun v hv => (h v hv).1.ne_nil⟩)
  rw [List.flatten_cons, wordLists, hmark, splitOnP_flatten hw h, List.filter_eq_self.2]
  intro u hu
  rw [Bool.not_eq_true', List.isEmpty_eq_false_iff]
  exact hne u hu

/-- The words are the same exactly if every one is seen. -/
theorem wordLists_flatten_eq_iff (hw : IsWritten w) (h : ∀ v ∈ ws, IsFollowing v) :
    wordLists (w :: ws).flatten = (w :: ws).map (List.map Char.toLower) ↔
      (w :: ws).IsChain fun w v => isSeen w v = true := by
  rw [wordLists_flatten hw h]
  constructor
  · intro hsame
    have hlength := congrArg List.length hsame
    rw [List.length_map, List.length_map] at hlength
    exact (length_merged_eq_iff _).1 hlength
  · intro hchain
    rw [merged_of_isChain hchain]

/-! ### Which words are seen -/

theorem isAlpha_eq_isLower {c : Char} (h : isWordLetter c = true) : c.isAlpha = c.isLower := by
  rw [Char.isAlpha, Bool.eq_false_iff.2 (not_isUpper_of_isWordLetter h), Bool.false_or]

/-- A word with a capital is seen if it begins with a letter, and if in front of it stands a small
letter or a digit, or else a capital in front and a small letter behind its first. -/
theorem isSeen_capital_cons {last c : Char} {rest : List Char} (hlast : w.getLast? = some last)
    (hrest : ∀ d ∈ rest, isWordLetter d = true) :
    isSeen w (capital (c :: rest)) =
      (c.isAlpha && (isWordLetter last || last.isUpper && rest.head?.any Char.isAlpha)) := by
  have hnext : rest.head?.any Char.isAlpha = rest.head?.any Char.isLower := by
    cases rest with
    | nil => rfl
    | cons d rest => exact isAlpha_eq_isLower (hrest d (List.mem_cons_self ..))
  rw [isSeen, hlast, hnext]
  show beginsWord (some last) (rest ++ []).head? c.toUpper = _
  rw [beginsWord, Char.isUpper_toUpper_eq_isAlpha, List.append_nil]
  rfl

/-- What a word with a capital ends in: a small letter or a digit if it has further letters or is a
digit, and else a capital. -/
theorem getLast?_capital (h : w ≠ [] ∧ ∀ c ∈ w, isWordLetter c = true) :
    ∃ last, (capital w).getLast? = some last ∧
      (isWordLetter last = true ↔ 2 ≤ w.length ∨ w.all Char.isDigit = true) ∧
      (isWordLetter last = false → last.isUpper = true) := by
  obtain ⟨c, rest, rfl⟩ := List.exists_cons_of_ne_nil h.1
  obtain ⟨hc, hrest⟩ := List.forall_mem_cons.1 h.2
  cases rest with
  | nil =>
      refine ⟨c.toUpper, rfl, ?_⟩
      rcases Bool.or_eq_true _ _ ▸ hc with hlower | hdigit
      · have hupper : c.toUpper.isUpper = true := by
          rw [Char.isUpper_toUpper_eq_isAlpha, isAlpha_eq_isLower hc, hlower]
        have hcapital : isWordLetter c.toUpper = false :=
          Bool.eq_false_iff.2 fun hletter => not_isUpper_of_isWordLetter hletter hupper
        have hdigit : c.isDigit = false := not_isDigit_of_isLower hlower
        simp [hcapital, hupper, hdigit]
      · have hsame : c.toUpper = c := by
          refine Char.toUpper_eq_of_not_isLower fun hlower => ?_
          rw [not_isDigit_of_isLower hlower] at hdigit
          cases hdigit
        simp [hsame, hc, hdigit]
  | cons d rest =>
      obtain ⟨last, hlast⟩ : ∃ last, (d :: rest).getLast? = some last :=
        ⟨_, List.getLast?_eq_some_getLast (List.cons_ne_nil d rest)⟩
      have hletter := hrest last (List.mem_of_getLast? hlast)
      refine ⟨last, ?_, ?_⟩
      · rw [capital, List.getLast?_cons, hlast]
        rfl
      · simp [hletter]

section Words

variable {w v : String}

/-- The character of a word at a place is a letter. -/
def hasLetterAt (w : String) (i : Nat) : Bool := w.toList[i]?.any Char.isAlpha

/-- Behind a word without a capital, one with a capital is seen if it begins with a letter. -/
theorem isSeen_first (hw : IsWord w) (hv : IsWord v) :
    isSeen w.toList (capital v.toList) = true ↔ hasLetterAt v 0 = true := by
  obtain ⟨hne, hletters⟩ := hv
  unfold hasLetterAt
  obtain ⟨c, rest, hcs⟩ := List.exists_cons_of_ne_nil hne
  rw [hcs] at hletters ⊢
  obtain ⟨-, hrest⟩ := List.forall_mem_cons.1 hletters
  have hlast := hw.2 _ (List.getLast_mem hw.1)
  rw [isSeen_capital_cons (List.getLast?_eq_some_getLast hw.1) hrest, hlast]
  simp

/-- **When a word with a capital is seen behind another one**: it begins with a letter, and the
other one has further letters or is a digit, or else it has itself a letter behind its first. -/
theorem isSeen_capital (hw : IsWord w) (hv : IsWord v) :
    isSeen (capital w.toList) (capital v.toList) = true ↔
      hasLetterAt v 0 = true ∧
        (2 ≤ w.length ∨ w.toList.all Char.isDigit = true ∨ hasLetterAt v 1 = true) := by
  obtain ⟨last, hlast, hletter, hupper⟩ := getLast?_capital hw
  obtain ⟨hne, hletters⟩ := hv
  unfold hasLetterAt
  rw [String.length_toList] at hletter
  obtain ⟨c, rest, hcs⟩ := List.exists_cons_of_ne_nil hne
  rw [hcs] at hletters ⊢
  obtain ⟨-, hrest⟩ := List.forall_mem_cons.1 hletters
  rw [isSeen_capital_cons hlast hrest, ← or_assoc, ← hletter, Bool.and_eq_true]
  refine and_congr (by simp) ?_
  cases hkind : isWordLetter last with
  | true => simp
  | false =>
      rw [hupper hkind]
      simp [List.head?_eq_getElem?]

variable {ws : List String}

/-- Words with capitals, seen one behind the other. -/
theorem isChain_capitals_iff (h : ∀ w ∈ ws, IsWord w) :
    (ws.map fun w => capital w.toList).IsChain (fun w v => isSeen w v = true) ↔
      ∀ (i : Nat) (_ : i + 1 < ws.length), hasLetterAt ws[i + 1] 0 = true ∧
        (2 ≤ ws[i].length ∨ ws[i].toList.all Char.isDigit = true ∨
          hasLetterAt ws[i + 1] 1 = true) := by
  rw [List.isChain_map, List.isChain_iff_getElem]
  exact forall₂_congr fun i hi =>
    isSeen_capital (h _ (List.getElem_mem _)) (h _ (List.getElem_mem hi))

/-- Behind a first word without a capital less is asked for. -/
theorem isChain_first_iff (h : ∀ v ∈ w :: ws, IsWord v) :
    (w.toList :: ws.map fun v => capital v.toList).IsChain (fun w v => isSeen w v = true) ↔
      ∀ (i : Nat) (_ : i + 1 < (w :: ws).length), hasLetterAt (w :: ws)[i + 1] 0 = true ∧
        (i = 0 ∨ 2 ≤ (w :: ws)[i].length ∨ (w :: ws)[i].toList.all Char.isDigit = true ∨
          hasLetterAt (w :: ws)[i + 1] 1 = true) := by
  obtain ⟨hw, hws⟩ := List.forall_mem_cons.1 h
  cases ws with
  | nil => simp
  | cons v ws =>
      obtain ⟨hv, -⟩ := List.forall_mem_cons.1 hws
      rw [List.map_cons, List.isChain_cons_cons, isSeen_first hw hv]
      have hmore := isChain_capitals_iff hws
      rw [List.map_cons] at hmore
      rw [hmore]
      constructor
      · rintro ⟨hfirst, hall⟩ i hi
        cases i with
        | zero => exact ⟨hfirst, .inl rfl⟩
        | succ i =>
            obtain ⟨hletter, hseen⟩ := hall i (Nat.lt_of_succ_lt_succ hi)
            exact ⟨hletter, .inr hseen⟩
      · intro hall
        refine ⟨(hall 0 (by simp)).1, fun i hi => ?_⟩
        obtain ⟨hletter, hseen⟩ := hall (i + 1) (Nat.succ_lt_succ hi)
        exact ⟨hletter, hseen.resolve_left (Nat.succ_ne_zero i)⟩

end Words

/-! ### Forms without separators -/

variable {name : String}

theorem isFollowing_of_mem_capitals (name : String) : ∀ w ∈ capitals name, IsFollowing w := by
  intro w hw
  refine ⟨isWritten_of_mem_capitals name w hw, ?_⟩
  obtain ⟨v, -, rfl⟩ := List.mem_map.1 hw
  cases v with
  | nil => exact fun c hc => nomatch hc
  | cons c rest =>
      intro d hd
      obtain rfl : c.toUpper = d := Option.some.inj hd
      exact Char.isLower_toUpper_eq_false c

theorem words_eq_words_iff {name name' : String} :
    words name = words name' ↔ wordLists name.toList = wordLists name'.toList :=
  List.map_inj_right fun _ _ => String.ofList_inj.1

theorem map_capital_words (name : String) :
    ((words name).map fun w => capital w.toList) = capitals name := by
  rw [capitals, words, List.map_map]
  refine List.map_congr_left fun w _ => ?_
  rw [Function.comp_apply, String.toList_ofList]

/-- All words are found again exactly if each is seen behind the one before it. -/
theorem words_pascal_eq_iff (name : String) :
    words (pascal name) = words name ↔
      ((words name).map fun w => capital w.toList).IsChain fun w v => isSeen w v = true := by
  have hfollowing := isFollowing_of_mem_capitals name
  rw [words_eq_words_iff, pascal, toList_join_empty, map_toList_capitalize, ← map_toLower_capitals,
    map_capital_words]
  generalize capitals name = pieces at hfollowing ⊢
  cases pieces with
  | nil => exact iff_of_true rfl .nil
  | cons w ws =>
      obtain ⟨hw, hws⟩ := List.forall_mem_cons.1 hfollowing
      exact wordLists_flatten_eq_iff hw.1 hws

/-- The same when the first word has no capital. -/
theorem words_camel_eq_iff {w : String} {ws : List String} (h : words name = w :: ws) :
    words (camel name) = words name ↔
      (w.toList :: ws.map fun v => capital v.toList).IsChain fun w v => isSeen w v = true := by
  have hw : IsWord w := isWord_of_mem (h ▸ List.mem_cons_self ..)
  have hcapitals := map_capital_words name
  rw [h, List.map_cons] at hcapitals
  have hfollowing := isFollowing_of_mem_capitals name
  rw [← hcapitals, List.forall_mem_cons] at hfollowing
  -- In small letters the words are those of the name, with or without capitals.
  have hlower := map_toLower_capitals name
  rw [← hcapitals, List.map_cons, map_toLower_capital hw.2] at hlower
  have hsame := wordLists_flatten_eq_iff (isWritten_of_isWordLetter hw) hfollowing.2
  rwa [List.map_cons, map_toLower_of_isWordLetter hw.2, hlower, List.flatten_cons,
    ← toList_camel_of_words h, ← words_eq_words_iff] at hsame

/-- **For which names nothing is lost when their words are run together.**  With a capital for each
word: every word behind the first begins with a letter, and either the one before it has further
characters or is a digit, or its own second character is a letter.  If the first word has no
capital, the word behind it need only begin with a letter. -/
theorem snake_pascal_eq_iff (name : String) :
    (snake (pascal name) = snake name ↔ ∀ (i : Nat) (_ : i + 1 < (words name).length),
      hasLetterAt (words name)[i + 1] 0 = true ∧
        (2 ≤ (words name)[i].length ∨ (words name)[i].toList.all Char.isDigit = true ∨
          hasLetterAt (words name)[i + 1] 1 = true)) ∧
    (snake (camel name) = snake name ↔ ∀ (i : Nat) (_ : i + 1 < (words name).length),
      hasLetterAt (words name)[i + 1] 0 = true ∧
        (i = 0 ∨ 2 ≤ (words name)[i].length ∨ (words name)[i].toList.all Char.isDigit = true ∨
          hasLetterAt (words name)[i + 1] 1 = true)) := by
  have hwords : ∀ w ∈ words name, IsWord w := fun w hw => isWord_of_mem hw
  constructor
  · rw [snake_inj, words_pascal_eq_iff]
    exact isChain_capitals_iff hwords
  · -- The list of words is named, so that its first one can be told apart.
    have hfirst : ∀ {found : List String}, words name = found →
        (words (camel name) = words name ↔ ∀ (i : Nat) (_ : i + 1 < found.length),
          hasLetterAt found[i + 1] 0 = true ∧
            (i = 0 ∨ 2 ≤ found[i].length ∨ found[i].toList.all Char.isDigit = true ∨
              hasLetterAt found[i + 1] 1 = true)) := by
      intro found hfound
      cases found with
      | nil =>
          rw [camel, hfound]
          simp
      | cons w ws =>
          rw [words_camel_eq_iff hfound]
          exact isChain_first_iff fun v hv => hwords v (hfound ▸ hv)
    rw [snake_inj]
    exact hfirst rfl

example : words "api_v_2_x1" = ["api", "v", "2", "x1"] ∧ pascal "api_v_2_x1" = "ApiV2X1" ∧
    snake "ApiV2X1" = "api_v2_x1" := by decide +kernel

end DartScaffold.Naming
