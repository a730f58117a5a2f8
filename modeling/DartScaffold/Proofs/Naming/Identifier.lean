/-
**The shape of generated names.**

A name is made from the words of another one, and the words are cut at every character that is no
ASCII letter or digit.  So a name in camel case begins with a small letter and goes on with letters
and digits, whatever it was made from; a leading digit gets an `n` in front, and a name without
words is `field`.  What is put behind such a name keeps it one, if it consists of letters and
digits too.

Main definitions:

* `Naming.isMemberName` — a small letter, then letters and digits.

Main results:

* `Naming.mem_wordLists` — a word is not empty and has small letters and digits only;
* `Naming.isMemberName_append` — letters and digits may be put behind a name;
* `Naming.isMemberName_fresh` — **a sanitizer gives such names**, whatever is asked for.
-/

import Mathlib
import DartScaffold.Naming.Sanitizer

set_option relaxedAutoImplicit false
set_option autoImplicit false

namespace DartScaffold.Naming

/-! ### Letters and digits -/

/-- A character that a word is kept with. -/
def isWordLetter (c : Char) : Bool := c.isLower || c.isDigit

theorem isAlphanum_of_isLower {c : Char} (h : c.isLower = true) : c.isAlphanum = true := by
  simp [Char.isAlphanum, Char.isAlpha, h]

theorem isAlphanum_of_isDigit {c : Char} (h : c.isDigit = true) : c.isAlphanum = true := by
  simp [Char.isAlphanum, h]

theorem isAlphanum_of_isWordLetter {c : Char} (h : isWordLetter c = true) :
    c.isAlphanum = true := by
  rcases Bool.or_eq_true _ _ ▸ h with h | h
  · exact isAlphanum_of_isLower h
  · exact isAlphanum_of_isDigit h

/-- A letter or digit of ASCII is a character of ASCII. -/
theorem toNat_lt_of_isAlphanum {c : Char} (h : c.isAlphanum = true) : c.toNat < 128 := by
  simp [Char.isAlphanum, Char.isAlpha, Char.isUpper, Char.isLower, Char.isDigit,
    UInt32.le_iff_toNat_le, ← Char.toNat_val] at h ⊢
  omega

/-- The small form of a letter or digit is a small letter or a digit. -/
theorem isWordLetter_toLower {c : Char} (h : c.isAlphanum = true) :
    isWordLetter c.toLower = true := by
  rcases Bool.or_eq_true _ _ ▸ h with ha | hd
  · have hl : c.toLower.isLower = true := by rw [Char.isLower_toLower_eq_isAlpha, ha]
    simp [isWordLetter, hl]
  · by_cases hu : c.isUpper = true
    · have hl : c.toLower.isLower = true := by
        rw [Char.isLower_toLower_eq_isAlpha]
        simp [Char.isAlpha, hu]
      simp [isWordLetter, hl]
    · rw [Char.toLower_eq_of_not_isUpper (by simpa using hu)]
      simp [isWordLetter, hd]

/-- The capital form of a letter or digit is one, too. -/
theorem isAlphanum_toUpper {c : Char} (h : c.isAlphanum = true) : c.toUpper.isAlphanum = true := by
  by_cases hl : c.isLower = true
  · have ha : c.toUpper.isAlpha = true := by
      rw [Char.isAlpha_toUpper_eq_isAlpha]
      simp [Char.isAlpha, hl]
    simp [Char.isAlphanum, ha]
  · rw [Char.toUpper_eq_of_not_isLower (by simpa using hl)]
    exact h

/-! ### Words -/

/-- A word is not empty and has small letters and digits only. -/
theorem mem_wordLists {cs w : List Char} (h : w ∈ wordLists cs) :
    w ≠ [] ∧ ∀ c ∈ w, isWordLetter c = true := by
  obtain ⟨piece, hpiece, rfl⟩ := List.mem_map.1 h
  obtain ⟨hmem, hne⟩ := List.mem_filter.1 hpiece
  refine ⟨by simpa using hne, ?_⟩
  intro c hc
  obtain ⟨d, hd, rfl⟩ := List.mem_map.1 hc
  have hcut := not_of_mem_splitOnP hmem d hd
  exact isWordLetter_toLower (by simpa using hcut)

theorem mem_words {name w : String} (h : w ∈ words name) :
    w.toList ≠ [] ∧ ∀ c ∈ w.toList, isWordLetter c = true := by
  obtain ⟨cs, hcs, rfl⟩ := List.mem_map.1 h
  simpa using mem_wordLists hcs

/-- A capitalized word has letters and digits only. -/
theorem isAlphanum_of_mem_capitalize {w : String} (h : ∀ c ∈ w.toList, isWordLetter c = true) :
    ∀ c ∈ (capitalize w).toList, c.isAlphanum = true := by
  unfold capitalize
  cases hw : w.toList with
  | nil => simp
  | cons first rest =>
      rw [hw] at h
      intro c hc
      rw [String.toList_ofList] at hc
      rcases List.mem_cons.1 hc with rfl | hc
      · exact isAlphanum_toUpper (isAlphanum_of_isWordLetter (h first (List.mem_cons_self ..)))
      · exact isAlphanum_of_isWordLetter (h c (List.mem_cons_of_mem _ hc))

/-- Texts that are run together. -/
theorem toList_join_empty (parts : List String) :
    (Text.join "" parts).toList = (parts.map String.toList).flatten := by
  rw [Text.toList_join, String.toList_empty]
  induction parts with
  | nil => rfl
  | cons p ps ih =>
      cases ps with
      | nil => simp
      | cons q qs =>
          rw [List.map_cons, List.intercalate_cons_of_ne_nil (by simp), ih, List.append_nil,
            List.flatten_cons]

/-- A character of words that are run together is one of a word. -/
theorem mem_toList_join_empty {parts : List String} {c : Char} :
    c ∈ (Text.join "" parts).toList ↔ ∃ p ∈ parts, c ∈ p.toList := by
  rw [toList_join_empty]
  simp

/-- Capitalized words that are run together have letters and digits only. -/
theorem isAlphanum_of_mem_join {ws : List String}
    (h : ∀ w ∈ ws, ∀ c ∈ w.toList, isWordLetter c = true) :
    ∀ c ∈ (Text.join "" (ws.map capitalize)).toList, c.isAlphanum = true := by
  intro c hc
  obtain ⟨v, hv, hc⟩ := mem_toList_join_empty.1 hc
  obtain ⟨w, hw, rfl⟩ := List.mem_map.1 hv
  exact isAlphanum_of_mem_capitalize (h w hw) c hc

/-- A name in capitals has letters and digits only. -/
theorem isAlphanum_of_mem_pascal {name : String} :
    ∀ c ∈ (pascal name).toList, c.isAlphanum = true :=
  isAlphanum_of_mem_join fun _ hw => (mem_words hw).2

/-! ### Member names -/

/-- A small letter, then letters and digits. -/
def isMemberName (s : String) : Bool :=
  match s.toList with
  | [] => false
  | c :: rest => c.isLower && rest.all Char.isAlphanum

theorem isMemberName_iff (s : String) :
    isMemberName s = true ↔ ∃ c rest, s.toList = c :: rest ∧ c.isLower = true ∧
      ∀ d ∈ rest, d.isAlphanum = true := by
  unfold isMemberName
  cases hs : s.toList with
  | nil => simp
  | cons c rest => simp

/-- A name has letters and digits only. -/
theorem isAlphanum_of_isMemberName {s : String} (h : isMemberName s = true) :
    ∀ c ∈ s.toList, c.isAlphanum = true := by
  obtain ⟨first, rest, hs, hfirst, hrest⟩ := (isMemberName_iff s).1 h
  intro c hc
  rw [hs] at hc
  rcases List.mem_cons.1 hc with rfl | hc
  · exact isAlphanum_of_isLower hfirst
  · exact hrest c hc

theorem ne_nil_of_isMemberName {s : String} (h : isMemberName s = true) : s.toList ≠ [] := by
  obtain ⟨c, rest, hs, -, -⟩ := (isMemberName_iff s).1 h
  simp [hs]

/-- Letters and digits may be put behind a name. -/
theorem isMemberName_append {s t : String} (hs : isMemberName s = true)
    (ht : ∀ c ∈ t.toList, c.isAlphanum = true) : isMemberName (s ++ t) = true := by
  obtain ⟨c, rest, hcs, hc, hrest⟩ := (isMemberName_iff s).1 hs
  refine (isMemberName_iff _).2 ⟨c, rest ++ t.toList, ?_, hc, ?_⟩
  · rw [String.toList_append, hcs, List.cons_append]
  · intro d hd
    rcases List.mem_append.1 hd with hd | hd
    · exact hrest d hd
    · exact ht d hd

/-- A word, followed by letters and digits, makes a name; a leading digit gets an `n` in front. -/
theorem isMemberName_asIdentifier {s : String}
    (h : ∀ c rest, s.toList = c :: rest → isWordLetter c = true ∧
      ∀ d ∈ rest, d.isAlphanum = true) : isMemberName (asIdentifier s) = true := by
  unfold asIdentifier
  cases hs : s.toList with
  | nil =>
      show isMemberName "field" = true
      decide
  | cons c rest =>
      obtain ⟨hc, hrest⟩ := h c rest hs
      have hall : ∀ d ∈ s.toList, d.isAlphanum = true := by
        rw [hs]
        intro d hd
        rcases List.mem_cons.1 hd with rfl | hd
        · exact isAlphanum_of_isWordLetter hc
        · exact hrest d hd
      by_cases hd : c.isDigit = true
      · simp only [hd, if_true]
        exact isMemberName_append (by decide) hall
      · simp only [hd]
        have hl : c.isLower = true := by simpa [isWordLetter, hd] using hc
        exact (isMemberName_iff s).2 ⟨c, rest, hs, hl, hrest⟩

/-- A name in camel case begins with a letter of its first word. -/
theorem camel_shape {name : String} {c : Char} {rest : List Char}
    (h : (camel name).toList = c :: rest) :
    isWordLetter c = true ∧ ∀ d ∈ rest, d.isAlphanum = true := by
  unfold camel at h
  cases hw : words name with
  | nil => simp [hw] at h
  | cons w ws =>
      have hmem : ∀ v ∈ w :: ws, v.toList ≠ [] ∧ ∀ c ∈ v.toList, isWordLetter c = true :=
        fun v hv => mem_words (hw ▸ hv)
      obtain ⟨hne, hletters⟩ := hmem w (List.mem_cons_self ..)
      simp only [hw, String.toList_append] at h
      cases hcs : w.toList with
      | nil => exact absurd hcs hne
      | cons a as =>
          rw [hcs, List.cons_append, List.cons.injEq] at h
          obtain ⟨rfl, rfl⟩ := h
          rw [hcs] at hletters
          refine ⟨hletters a (List.mem_cons_self ..), ?_⟩
          intro d hd
          rcases List.mem_append.1 hd with hd | hd
          · exact isAlphanum_of_isWordLetter (hletters d (List.mem_cons_of_mem _ hd))
          · exact isAlphanum_of_mem_join
              (fun v hv => (hmem v (List.mem_cons_of_mem _ hv)).2) d hd

/-- **A sanitizer gives names of this shape**, if what it adds to a taken name has letters and
digits only. -/
theorem isMemberName_fresh (s : Sanitizer) {suffix : String}
    (h : ∀ c ∈ suffix.toList, c.isAlphanum = true) (source : String) :
    isMemberName (s.fresh .camel suffix source) = true := by
  have hid : isMemberName (asIdentifier (Case.camel.form source)) = true :=
    isMemberName_asIdentifier fun _ _ hs => camel_shape hs
  unfold Sanitizer.fresh
  by_cases ht : s.isTaken (asIdentifier (Case.camel.form source)) = true
  · rw [if_pos ht]
    exact isMemberName_append hid h
  · rw [if_neg ht]
    exact hid

end DartScaffold.Naming
