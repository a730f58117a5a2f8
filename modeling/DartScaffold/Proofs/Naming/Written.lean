/-
**Words as they are written.**

In every form of a name its words are written alike: in small letters and digits, with a capital at
the beginning or without.  So at most the beginning of a word is marked, and whether it is depends
on the character in front of it and, if that is a capital, on the one behind its first.  Words that
are set apart by another character than a letter or a digit need no marks, and they are found again
in small letters.

Main definitions:

* `Naming.IsWritten` — a word with no capital but at its beginning;
* `Naming.seenToBegin` — a word is marked where it stands.

Main results:

* `Naming.IsWritten.markWords_append` — a written word is marked at its beginning only;
* `Naming.markWords_intercalate` — words that are set apart need no marks;
* `Naming.wordLists_intercalate_written` — **words that are set apart are found again**.
-/

import Mathlib
import DartScaffold.Proofs.Naming.Identifier

set_option relaxedAutoImplicit false
set_option autoImplicit false

namespace DartScaffold.Naming

/-! ### Letters of a word -/

theorem not_isUpper_of_isWordLetter {c : Char} (h : isWordLetter c = true) :
    ¬ c.isUpper = true := by
  rcases Bool.or_eq_true _ _ ▸ h with hl | hd
  · exact Char.not_isUpper_of_isLower hl
  · intro hu
    simp only [Char.isDigit, Char.isUpper, Bool.and_eq_true, decide_eq_true_eq,
      UInt32.le_iff_toNat_le, ge_iff_le] at hd hu
    have hle : ('A' : Char).val.toNat ≤ ('9' : Char).val.toNat := hu.1.trans hd.2
    exact absurd hle (by decide)

theorem not_isDigit_of_isLower {c : Char} (h : c.isLower = true) : c.isDigit = false := by
  rw [Bool.eq_false_iff]
  intro hd
  simp only [Char.isLower, Char.isDigit, Bool.and_eq_true, decide_eq_true_eq,
    UInt32.le_iff_toNat_le, ge_iff_le] at h hd
  have hle : ('a' : Char).val.toNat ≤ ('9' : Char).val.toNat := h.1.trans hd.2
  exact absurd hle (by decide)

/-- A word is kept as it is in small letters. -/
theorem map_toLower_of_isWordLetter {w : List Char} (h : ∀ c ∈ w, isWordLetter c = true) :
    w.map Char.toLower = w := by
  refine (List.map_congr_left fun c hc => ?_).trans (List.map_id w)
  exact Char.toLower_eq_of_not_isUpper (not_isUpper_of_isWordLetter (h c hc))

/-! ### Written words -/

/-- A word as it is written in a name: letters and digits, with no capital but at the beginning. -/
def IsWritten (w : List Char) : Prop :=
  ∃ c rest, w = c :: rest ∧ c.isAlphanum = true ∧ ∀ d ∈ rest, isWordLetter d = true

variable {w : List Char}

theorem IsWritten.isAlphanum (h : IsWritten w) : ∀ c ∈ w, c.isAlphanum = true := by
  obtain ⟨c, rest, rfl, hc, hrest⟩ := h
  exact List.forall_mem_cons.2 ⟨hc, fun d hd => isAlphanum_of_isWordLetter (hrest d hd)⟩

theorem IsWritten.ne_nil (h : IsWritten w) : w ≠ [] := by
  obtain ⟨c, rest, rfl, -⟩ := h
  exact List.cons_ne_nil c rest

/-- A word may be written as it is kept. -/
theorem isWritten_of_isWordLetter (h : w ≠ [] ∧ ∀ c ∈ w, isWordLetter c = true) :
    IsWritten w := by
  obtain ⟨c, rest, rfl⟩ := List.exists_cons_of_ne_nil h.1
  obtain ⟨hc, hrest⟩ := List.forall_mem_cons.1 h.2
  exact ⟨c, rest, rfl, isAlphanum_of_isWordLetter hc, hrest⟩

/-! ### Marks -/

/-- Among small letters and digits there is nothing to mark. -/
theorem markWords_append {cs : List Char} (h : ∀ c ∈ cs, isWordLetter c = true)
    (previous : Option Char) (rest : List Char) :
    markWords previous (cs ++ rest) = cs ++ markWords (cs.getLast?.or previous) rest := by
  induction cs generalizing previous with
  | nil => rfl
  | cons c cs ih =>
      obtain ⟨hc, hcs⟩ := List.forall_mem_cons.1 h
      have hbegins : beginsWord previous (cs ++ rest).head? c = false := by
        rw [beginsWord, Bool.eq_false_iff.2 (not_isUpper_of_isWordLetter hc), Bool.false_and]
      have hlast : (c :: cs).getLast?.or previous = cs.getLast?.or (some c) := by
        rw [List.getLast?_cons, Option.some_or]
        cases cs.getLast? <;> rfl
      rw [List.cons_append, markWords, hbegins, ih hcs, hlast]
      rfl

/-- The word `w` is seen to begin between the character `previous` and the characters `rest`. -/
def seenToBegin (previous : Option Char) (w rest : List Char) : Bool :=
  w.head?.any (beginsWord previous (w.tail ++ rest).head?)

/-- A written word is marked at its beginning only. -/
theorem IsWritten.markWords_append (h : IsWritten w) (previous : Option Char) (rest : List Char) :
    markWords previous (w ++ rest) =
      (if seenToBegin previous w rest then ['_'] else []) ++ w ++ markWords w.getLast? rest := by
  obtain ⟨c, more, rfl, -, hmore⟩ := h
  have hlast : more.getLast?.or (some c) = (c :: more).getLast? := by
    rw [List.getLast?_cons]
    cases more.getLast? <;> rfl
  rw [List.cons_append, markWords, Naming.markWords_append hmore, hlast]
  show _ = (if beginsWord previous (more ++ rest).head? c then ['_'] else []) ++ c :: more ++ _
  cases beginsWord previous (more ++ rest).head? c <;> rfl

/-- Behind what is neither a letter nor a digit no word is seen to begin. -/
theorem seenToBegin_of_not_isAlphanum {previous : Option Char}
    (h : ∀ p ∈ previous, p.isAlphanum = false) (w rest : List Char) :
    seenToBegin previous w rest = false := by
  rw [seenToBegin, Option.any_eq_false]
  intro c _
  unfold beginsWord
  cases previous with
  | none => simp
  | some p =>
      have hp := h p rfl
      simp only [Char.isAlphanum, Char.isAlpha, Bool.or_eq_false_iff] at hp
      simp [hp]

/-- **Words that are set apart need no marks.** -/
theorem markWords_intercalate {sep : Char} (hsep : sep.isAlphanum = false)
    {pieces : List (List Char)} (h : ∀ w ∈ pieces, IsWritten w) {previous : Option Char}
    (hprevious : ∀ p ∈ previous, p.isAlphanum = false) :
    markWords previous ([sep].intercalate pieces) = [sep].intercalate pieces := by
  induction pieces generalizing previous with
  | nil => rfl
  | cons w pieces ih =>
      obtain ⟨hw, hpieces⟩ := List.forall_mem_cons.1 h
      have hmark : ∀ rest, markWords previous (w ++ rest) = w ++ markWords w.getLast? rest := by
        intro rest
        rw [hw.markWords_append, seenToBegin_of_not_isAlphanum hprevious]
        rfl
      cases pieces with
      | nil =>
          rw [List.intercalate_singleton]
          simpa [markWords] using hmark []
      | cons v pieces =>
          have hmore : markWords (some sep) ([sep].intercalate (v :: pieces)) = _ :=
            ih hpieces (by simpa using hsep)
          have hbegins : ∀ previous next, beginsWord previous next sep = false := by
            intro previous next
            simp only [Char.isAlphanum, Char.isAlpha, Bool.or_eq_false_iff] at hsep
            rw [beginsWord, hsep.1.1, Bool.false_and]
          rw [List.intercalate_cons_cons, List.append_assoc, hmark, List.singleton_append,
            markWords, hbegins, hmore]
          rfl

/-! ### Words that are set apart -/

/-- A text is cut where pieces were put together. -/
theorem splitOnP_intercalate {p : Char → Bool} {sep : Char} (hsep : p sep = true)
    {pieces : List (List Char)} (hne : pieces ≠ []) (h : ∀ w ∈ pieces, ∀ c ∈ w, p c = false) :
    ([sep].intercalate pieces).splitOnP p = pieces := by
  induction pieces with
  | nil => exact absurd rfl hne
  | cons w rest ih =>
      have hw := h w (List.mem_cons_self ..)
      cases rest with
      | nil => rw [List.intercalate_singleton, List.splitOnP_eq_singleton hw]
      | cons v rest =>
          have ih := ih (List.cons_ne_nil _ _) fun u hu => h u (List.mem_cons_of_mem _ hu)
          rw [List.intercalate_cons_cons, List.append_assoc, List.singleton_append,
            List.splitOnP_append_cons_of_forall_mem hw sep hsep, ih]

/-- Written words are all that is kept of what they are cut from. -/
theorem filter_written {pieces : List (List Char)} (h : ∀ w ∈ pieces, IsWritten w) :
    pieces.filter (fun w => !w.isEmpty) = pieces := by
  refine List.filter_eq_self.2 fun w hw => ?_
  rw [Bool.not_eq_true', List.isEmpty_eq_false_iff]
  exact (h w hw).ne_nil

/-- **Words that are set apart are found again**, in small letters. -/
theorem wordLists_intercalate_written {sep : Char} (hsep : sep.isAlphanum = false)
    {pieces : List (List Char)} (h : ∀ w ∈ pieces, IsWritten w) :
    wordLists ([sep].intercalate pieces) = pieces.map (List.map Char.toLower) := by
  have hcut : (([sep].intercalate pieces).splitOnP fun c => !c.isAlphanum).filter
      (fun w => !w.isEmpty) = pieces := by
    by_cases hne : pieces = []
    · subst hne
      rfl
    · rw [splitOnP_intercalate (p := fun c => !c.isAlphanum) (by rw [hsep, Bool.not_false]) hne
        fun w hw c hc => by rw [(h w hw).isAlphanum c hc, Bool.not_true], filter_written h]
  rw [wordLists, markWords_intercalate hsep h (by simp), hcut]

end DartScaffold.Naming
