/-
**When the singular undoes the plural.**

The plural is formed by rules on the ending of a word, and the singular by rules on the ending of a
plural, and both are rules of spelling that know no words.  Both look at an ending only, so what
stands before it can be taken away on both sides.  A hissing sound takes `es` and gives it back, and
so do a `y` and `ies`.  A plain `s` is taken back, too, but not if the word ends in an `e` with a
hissing sound before it, since the plural then looks like that of the word without the `e`, and not
if it ends in `ie`, since the plural then looks like that of a word with a `y`.

Main definitions:

* `Naming.hasTwin` — the plural of a word is taken for that of another one.

Main results:

* `Naming.endsWith_append`, `Naming.dropEnd_append` — what stands before an ending does not matter;
* `Naming.pluralize_cases` — how a plural is formed;
* `Naming.singularize_append_es`, `Naming.singularize_append_ies`, `Naming.singularize_append_s` —
  what is made of the endings of a plural;
* `Naming.singularize_pluralize_iff` — **which words come back**;
* `Naming.snake_pluralize_snake` — the plural of a name is in the form of names.
-/

import Mathlib
import DartScaffold.Naming.Plural
import DartScaffold.Proofs.Naming.Joined
import DartScaffold.Proofs.Text.LetterCase

set_option relaxedAutoImplicit false
set_option autoImplicit false

namespace DartScaffold.Naming

/-! ### Endings -/

variable {w : String}

theorem endsWith_iff {e s : String} : Text.endsWith e s = true ↔ e.toList <:+ s.toList :=
  List.isSuffixOf_iff_suffix

/-- A further ending on both sides does not matter. -/
theorem endsWith_append (e s t : String) :
    Text.endsWith (e ++ t) (s ++ t) = Text.endsWith e s := by
  rw [Bool.eq_iff_iff, endsWith_iff, endsWith_iff, String.toList_append, String.toList_append]
  constructor
  · rintro ⟨before, h⟩
    rw [← List.append_assoc] at h
    exact ⟨before, List.append_cancel_right h⟩
  · rintro ⟨before, h⟩
    exact ⟨before, by rw [← List.append_assoc, h]⟩

theorem endsWith_self (e s : String) : Text.endsWith e (s ++ e) = true := by
  rw [endsWith_iff, String.toList_append]
  exact List.suffix_append _ _

/-- A word ends in the last letter of each of its endings. -/
theorem getLast?_of_endsWith {e s : String} (h : Text.endsWith e s = true) {c : Char}
    (hc : e.toList.getLast? = some c) : s.toList.getLast? = some c := by
  obtain ⟨before, hs⟩ := endsWith_iff.1 h
  rw [← hs, List.getLast?_append, hc]
  rfl

theorem dropEnd_append (n : Nat) {t : String} (h : t.length = n) (s : String) :
    dropEnd n (s ++ t) = s := by
  rw [dropEnd, String.length_append, h, Nat.add_sub_cancel, String.toList_append,
    ← String.length_toList, List.take_left, String.ofList_toList]

theorem length_dropEnd (n : Nat) (s : String) : (dropEnd n s).length = s.length - n := by
  rw [dropEnd, String.length_ofList, List.length_take, String.length_toList]
  exact Nat.min_eq_left (Nat.sub_le _ _)

/-! ### Small letters -/

theorem lower_of_isSmall (h : isSmall w = true) : Text.lower w = w := by
  refine Text.lower_eq_self fun c hc => ?_
  rcases Bool.or_eq_true _ _ ▸ List.all_eq_true.1 h c hc with hletter | hline
  · exact ⟨toNat_lt_of_isAlphanum (isAlphanum_of_isWordLetter hletter),
      Bool.eq_false_iff.2 (not_isUpper_of_isWordLetter hletter)⟩
  · obtain rfl := beq_iff_eq.1 hline
    decide

theorem endsIn_of_isSmall (h : isSmall w = true) (endings : List String) :
    endsIn endings w = endings.any fun e => Text.endsWith e w := by
  rw [endsIn, lower_of_isSmall h]

/-- Endings that are put behind others are looked for where those stand. -/
theorem endsIn_append {t : String} (h : isSmall (w ++ t) = true) (endings : List String) :
    endsIn (endings.map (· ++ t)) (w ++ t) = endings.any fun e => Text.endsWith e w := by
  rw [endsIn_of_isSmall h, List.any_map]
  exact congrArg endings.any (funext fun e => endsWith_append e w t)

/-! ### The plural -/

/-- The word ends in a hissing sound. -/
def hisses (w : String) : Bool := ["s", "x", "z", "ch", "sh"].any fun e => Text.endsWith e w

/-- What hisses ends in one of four letters. -/
theorem getLast?_of_hisses (h : hisses w = true) :
    ∃ c ∈ ['s', 'x', 'z', 'h'], w.toList.getLast? = some c := by
  simp only [hisses, List.any_cons, List.any_nil, Bool.or_eq_true, Bool.false_eq_true,
    or_false] at h
  rcases h with hs | hx | hz | hch | hsh
  · exact ⟨'s', by decide, getLast?_of_endsWith hs rfl⟩
  · exact ⟨'x', by decide, getLast?_of_endsWith hx rfl⟩
  · exact ⟨'z', by decide, getLast?_of_endsWith hz rfl⟩
  · exact ⟨'h', by decide, getLast?_of_endsWith hch rfl⟩
  · exact ⟨'h', by decide, getLast?_of_endsWith hsh rfl⟩

/-- A word whose `y` is changed has a stem before it. -/
theorem exists_stem (h : isSmall w = true) (hy : endsInConsonantY w = true) :
    ∃ stem, stem ≠ "" ∧ w = stem ++ "y" := by
  unfold endsInConsonantY at hy
  rw [lower_of_isSmall h] at hy
  split at hy
  · rename_i before rest hreverse
    have hlist : w.toList = (before :: rest).reverse ++ ['y'] := by
      rw [← List.reverse_reverse w.toList, hreverse, List.reverse_cons]
    refine ⟨String.ofList (before :: rest).reverse, ?_, ?_⟩
    · simp [← String.toList_inj]
    · rw [← String.toList_inj, hlist, String.toList_append, String.toList_ofList]
      rfl
  · cases hy

/-- **How a plural is formed.** -/
theorem pluralize_cases (h : isSmall w = true) (hne : w ≠ "") :
    (hisses w = true ∧ pluralize w = w ++ "es") ∨
      (∃ stem, stem ≠ "" ∧ w = stem ++ "y" ∧ pluralize w = stem ++ "ies") ∨
      (hisses w = false ∧ pluralize w = w ++ "s") := by
  have hhiss : endsIn ["s", "x", "z", "ch", "sh"] w = hisses w := endsIn_of_isSmall h _
  rw [pluralize, if_neg hne, hhiss]
  cases hisses w with
  | true => exact .inl ⟨rfl, rfl⟩
  | false =>
      refine .inr ?_
      rw [if_neg Bool.false_ne_true]
      by_cases hy : endsInConsonantY w = true
      · obtain ⟨stem, hstem, rfl⟩ := exists_stem h hy
        rw [if_pos hy, dropEnd_append 1 (t := "y") rfl]
        exact .inl ⟨stem, hstem, rfl, rfl⟩
      · exact .inr ⟨rfl, if_neg hy⟩

/-! ### The singular -/

/-- The plural of a word is taken for that of another one: of one without the last letter, or of one
with a `y` at the end. -/
def hasTwin (w : String) : Bool :=
  (["se", "xe", "ze", "che", "she"].any fun e => Text.endsWith e w) ||
    decide (3 ≤ w.length) && Text.endsWith "ie" w

theorem hasTwin_of_getLast? {c : Char} (hlast : w.toList.getLast? = some c) (hc : c ≠ 'e') :
    hasTwin w = false := by
  have hends : ∀ e : String, e.toList.getLast? = some 'e' → Text.endsWith e w = false := by
    intro e he
    rw [Bool.eq_false_iff]
    intro hends
    rw [getLast?_of_endsWith hends he] at hlast
    exact hc (Option.some.inj hlast).symm
  have hnone : (["se", "xe", "ze", "che", "she"].any fun e => Text.endsWith e w) = false := by
    rw [List.any_eq_false]
    intro e he
    have hletter : ∀ e ∈ ["se", "xe", "ze", "che", "she"], e.toList.getLast? = some 'e' := by decide
    rw [hends e (hletter e he)]
    exact Bool.false_ne_true
  rw [hasTwin, hnone, hends "ie" rfl, Bool.and_false, Bool.or_false]

/-- What is made of `es`: it is taken away behind a hissing sound. -/
theorem singularize_append_es (h : isSmall w = true) (hhiss : hisses w = true) :
    singularize (w ++ "es") = w := by
  have hsmall : isSmall (w ++ "es") = true := by
    rw [isSmall_append, h]
    decide
  have hies : endsIn ["ies"] (w ++ "es") = false := by
    rw [show ["ies"] = ["i"].map (· ++ "es") by decide, endsIn_append hsmall]
    obtain ⟨c, hc, hlast⟩ := getLast?_of_hisses hhiss
    simp only [List.any_cons, List.any_nil, Bool.or_false]
    rw [Bool.eq_false_iff]
    intro hends
    rw [getLast?_of_endsWith hends (c := 'i') rfl] at hlast
    obtain rfl := Option.some.inj hlast
    revert hc
    decide
  have hes : endsIn ["ses", "xes", "zes", "ches", "shes"] (w ++ "es") = true := by
    rw [show ["ses", "xes", "zes", "ches", "shes"] =
      ["s", "x", "z", "ch", "sh"].map (· ++ "es") by decide, endsIn_append hsmall]
    exact hhiss
  rw [singularize, hies, hes, Bool.false_and, if_neg Bool.false_ne_true, if_pos rfl,
    dropEnd_append 2 (t := "es") rfl]

/-- What is made of `ies`: a `y`, if anything stands before it. -/
theorem singularize_append_ies {stem : String} (h : isSmall stem = true) (hne : stem ≠ "") :
    singularize (stem ++ "ies") = stem ++ "y" := by
  have hsmall : isSmall (stem ++ "ies") = true := by
    rw [isSmall_append, h]
    decide
  have hies : endsIn ["ies"] (stem ++ "ies") = true := by
    rw [endsIn_of_isSmall hsmall, List.any_cons, endsWith_self, Bool.true_or]
  have hlong : 3 < (stem ++ "ies").length := by
    have hpos : stem.length ≠ 0 := by
      rwa [ne_eq, String.length_eq_zero_iff]
    rw [String.length_append, show "ies".length = 3 by decide]
    omega
  rw [singularize, hies, Bool.true_and, if_pos (decide_eq_true hlong),
    dropEnd_append 3 (t := "ies") rfl]

/-- The rules for a plain `s`, by what stands before it. -/
theorem singularize_append_s_eq (h : isSmall w = true) (hs : Text.endsWith "s" w = false) :
    singularize (w ++ "s") =
      if Text.endsWith "ie" w && decide (3 ≤ w.length) then dropEnd 3 (w ++ "s") ++ "y"
      else if ["se", "xe", "ze", "che", "she"].any fun e => Text.endsWith e w then
        dropEnd 2 (w ++ "s")
      else w := by
  have hsmall : isSmall (w ++ "s") = true := by
    rw [isSmall_append, h]
    decide
  have hies : endsIn ["ies"] (w ++ "s") = Text.endsWith "ie" w := by
    rw [show ["ies"] = ["ie"].map (· ++ "s") by decide, endsIn_append hsmall]
    simp
  have hes : endsIn ["ses", "xes", "zes", "ches", "shes"] (w ++ "s") =
      ["se", "xe", "ze", "che", "she"].any fun e => Text.endsWith e w := by
    rw [show ["ses", "xes", "zes", "ches", "shes"] =
      ["se", "xe", "ze", "che", "she"].map (· ++ "s") by decide, endsIn_append hsmall]
  have hplain : (endsIn ["s"] (w ++ "s") && !endsIn ["ss"] (w ++ "s")) = true := by
    rw [show ["s"] = [""].map (· ++ "s") by decide, show ["ss"] = ["s"].map (· ++ "s") by decide,
      endsIn_append hsmall, endsIn_append hsmall, List.any_cons, List.any_cons, hs]
    simp [endsWith_iff]
  have hlong : decide (3 < (w ++ "s").length) = decide (3 ≤ w.length) := by
    rw [String.length_append]
    exact decide_eq_decide.2 Nat.lt_succ_iff
  rw [singularize, hies, hes, hplain, hlong, if_pos rfl, dropEnd_append 1 (t := "s") rfl]

/-- What is made of a plain `s`: it is taken away, unless the plural is taken for that of another
word. -/
theorem singularize_append_s (h : isSmall w = true) (hs : Text.endsWith "s" w = false) :
    singularize (w ++ "s") = w ↔ hasTwin w = false := by
  -- What is made of the plural of another word is shorter than the word.
  have hshorter : ∀ s, s.length < w.length → s ≠ w := fun s hlt hsame => by
    rw [hsame] at hlt
    exact lt_irrefl _ hlt
  have hlength : (w ++ "s").length = w.length + 1 := String.length_append w "s"
  rw [singularize_append_s_eq h hs, hasTwin,
    Bool.and_comm (decide (3 ≤ w.length)) (Text.endsWith "ie" w)]
  cases hie : Text.endsWith "ie" w && decide (3 ≤ w.length) with
  | true =>
      rw [if_pos rfl, Bool.or_true]
      rw [Bool.and_eq_true, decide_eq_true_eq] at hie
      refine iff_of_false (hshorter _ ?_) Bool.true_eq_false_eq_False
      rw [String.length_append, length_dropEnd, hlength, show "y".length = 1 by decide]
      omega
  | false =>
      rw [if_neg Bool.false_ne_true, Bool.or_false]
      cases hother : ["se", "xe", "ze", "che", "she"].any fun e => Text.endsWith e w with
      | true =>
          have hne : w.length ≠ 0 := by
            intro hempty
            obtain rfl := String.length_eq_zero_iff.1 hempty
            exact absurd hother (by decide)
          rw [if_pos rfl]
          refine iff_of_false (hshorter _ ?_) Bool.true_eq_false_eq_False
          rw [length_dropEnd, hlength]
          omega
      | false =>
          rw [if_neg Bool.false_ne_true]
          exact iff_of_true rfl rfl

/-- **Which words come back**: those whose plural is not taken for that of another word. -/
theorem singularize_pluralize_iff (h : isSmall w = true) :
    singularize (pluralize w) = w ↔ hasTwin w = false := by
  by_cases hne : w = ""
  · subst hne
    exact iff_of_true rfl (by decide)
  rcases pluralize_cases h hne with
    ⟨hhiss, hplural⟩ | ⟨stem, hstem, rfl, hplural⟩ | ⟨hhiss, hplural⟩
  · obtain ⟨c, hc, hlast⟩ := getLast?_of_hisses hhiss
    have hother : c ≠ 'e' := by
      rintro rfl
      revert hc
      decide
    rw [hplural]
    exact iff_of_true (singularize_append_es h hhiss) (hasTwin_of_getLast? hlast hother)
  · have hlast : (stem ++ "y").toList.getLast? = some 'y' :=
      getLast?_of_endsWith (endsWith_self "y" stem) rfl
    rw [isSmall_append, Bool.and_eq_true] at h
    rw [hplural]
    exact iff_of_true (singularize_append_ies h.1 hstem) (hasTwin_of_getLast? hlast (by decide))
  · have hs : Text.endsWith "s" w = false := by
      rw [hisses, List.any_cons, Bool.or_eq_false_iff] at hhiss
      exact hhiss.1
    rw [hplural]
    exact singularize_append_s h hs

/-- The plurals of `movie` and `movy` are the same; but `ie` is too short to be mistaken. -/
theorem singularize_pluralize_iff_movie :
    isSmall "movie" = true ∧ pluralize "movie" = "movies" ∧ pluralize "movy" = "movies" ∧
      hasTwin "movie" = true ∧ singularize (pluralize "movie") ≠ "movie" ∧
      hasTwin "ie" = false ∧ singularize (pluralize "ie") = "ie" := by
  have hmovie : isSmall "movie" = true := by decide
  have htwin : hasTwin "movie" = true := by decide
  have hshort : hasTwin "ie" = false := by decide
  refine ⟨hmovie, by decide +kernel, by decide +kernel, htwin, fun hsame => ?_, hshort,
    (singularize_pluralize_iff (by decide)).2 hshort⟩
  rw [singularize_pluralize_iff hmovie, htwin] at hsame
  cases hsame

/-! ### The plural of a name -/

section PluralOfName

variable {name : String}

/-- A plural is written like the word, and ends in an `s`. -/
theorem isSmall_pluralize (h : isSmall w = true) (hne : w ≠ "") :
    isSmall (pluralize w) = true ∧ Text.endsWith "s" (pluralize w) = true := by
  have hends : ∀ s t : String, Text.endsWith "s" (s ++ (t ++ "s")) = true := by
    intro s t
    rw [← String.append_assoc]
    exact endsWith_self "s" (s ++ t)
  rcases pluralize_cases h hne with ⟨-, hplural⟩ | ⟨stem, -, rfl, hplural⟩ | ⟨-, hplural⟩
  · rw [hplural, isSmall_append, h]
    exact ⟨by decide, hends w "e"⟩
  · rw [isSmall_append, Bool.and_eq_true] at h
    rw [hplural, isSmall_append, h.1]
    exact ⟨by decide, hends stem "ie"⟩
  · rw [hplural, isSmall_append, h]
    exact ⟨by decide, endsWith_self "s" w⟩

/-- A word may end in another one. -/
theorem IsWord.append {s t : String} (hs : ∀ c ∈ s.toList, isWordLetter c = true) (ht : IsWord t) :
    IsWord (s ++ t) := by
  rw [IsWord, String.toList_append]
  exact ⟨List.append_ne_nil_of_right_ne_nil _ ht.1, List.forall_mem_append.2 ⟨hs, ht.2⟩⟩

/-- **The plural of a name is in the form of names**: only the end of the last word is changed. -/
theorem snake_pluralize_snake (h : words name ≠ []) :
    snake (pluralize (snake name)) = pluralize (snake name) := by
  obtain ⟨before, last, hname, hlast, hform⟩ := exists_last_word h
  have hne : snake name ≠ "" := fun hempty => h ((snake_eq_empty_iff name).1 hempty)
  have hbehind : ∀ t, IsWord t → snake (snake name ++ t) = snake name ++ t := by
    intro t ht
    rw [hname, String.append_assoc]
    exact hform _ (IsWord.append hlast.2 ht)
  rcases pluralize_cases (isSmall_snake name) hne with
    ⟨-, hplural⟩ | ⟨stem, -, hstem, hplural⟩ | ⟨-, hplural⟩
  · rw [hplural]
    exact hbehind "es" (by decide)
  · -- The last word is not empty, so the `y` is its own.
    obtain ⟨letters, c, hletters⟩ := (List.eq_nil_or_concat' last.toList).resolve_left hlast.1
    have hsame : (before.toList ++ letters) ++ [c] = stem.toList ++ ['y'] := by
      rw [List.append_assoc, ← hletters, ← String.toList_append, ← hname, hstem,
        String.toList_append]
      rfl
    have hbefore : stem = before ++ String.ofList letters := by
      rw [← String.toList_inj, ← (List.append_inj' hsame rfl).1, String.toList_append,
        String.toList_ofList]
    have hword : ∀ d ∈ (String.ofList letters).toList, isWordLetter d = true := by
      intro d hd
      rw [String.toList_ofList] at hd
      exact hlast.2 d (hletters ▸ List.mem_append_left _ hd)
    rw [hplural, hbefore, String.append_assoc]
    exact hform _ (IsWord.append hword (by decide))
  · rw [hplural]
    exact hbehind "s" (by decide)

/-- **Which names come back from their plural**, when that is brought into the form of names. -/
theorem singularize_snake_pluralize_iff (h : words name ≠ []) :
    singularize (snake (pluralize (snake name))) = snake name ↔ hasTwin (snake name) = false := by
  rw [snake_pluralize_snake h, singularize_pluralize_iff (isSmall_snake name)]

end PluralOfName

end DartScaffold.Naming
