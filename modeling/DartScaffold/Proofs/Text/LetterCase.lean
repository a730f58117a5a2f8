/-
**Words in capitals and in small letters.**

The case maps of all scripts meet at a few places with ASCII: the long `s` and the dotless `i` have
ASCII capitals, and the Kelvin sign has the small letter `k`.  So a text in capitals has no small
letter of ASCII, and if its small form is an ASCII word without a `k`, the text is that word in
capitals, letter by letter.  This is how a method of a request is told by its small form.

Main results:

* `Text.isLower_of_mem_upper` — a text in capitals has no small letters of ASCII;
* `Text.toNat_lt_of_lowerChar_eq` — only a letter of ASCII has a small letter other than `k`;
* `Text.lower_eq_self` — a text of ASCII without capitals is its own small form;
* `Text.lower_upper_eq_iff` — **the small form tells a text in capitals**.
-/

import Mathlib
import DartScaffold.Text.LetterCase

set_option relaxedAutoImplicit false
set_option autoImplicit false

namespace DartScaffold.Text

theorem isLower_iff (c : Char) : c.isLower = true ↔ 97 ≤ c.toNat ∧ c.toNat ≤ 122 := by
  simp [Char.isLower, UInt32.le_iff_toNat_le, ← Char.toNat_val]

/-! ### The tables of runs -/

/-- What a table of runs maps a character to: a moved character, or the character itself. -/
theorem mapRuns_cases (runs : List (Nat × Nat × Nat × Int)) (c : Char) :
    mapRuns runs c = c ∨ ∃ first last step distance, (first, last, step, distance) ∈ runs ∧
      first ≤ c.toNat ∧ c.toNat ≤ last ∧
      mapRuns runs c = Char.ofNat (c.toNat + distance).toNat := by
  unfold mapRuns Option.getD
  split
  · rename_i d h
    obtain ⟨⟨first, last, step, distance⟩, hmem, hrun⟩ := List.exists_of_findSome?_eq_some h
    simp only [CaseRun.map?] at hrun
    split at hrun
    · rename_i hin
      refine .inr ⟨first, last, step, distance, hmem, hin.1, hin.2.1, ?_⟩
      exact (Option.some.inj hrun).symm
    · cases hrun
  · exact .inl rfl

/-- A character with a valid number has that number. -/
theorem toNat_ofNat_cases (n : Nat) : (Char.ofNat n).toNat = n ∨ (Char.ofNat n).toNat = 0 := by
  unfold Char.ofNat
  split
  · exact .inl rfl
  · exact .inr rfl

/-- No run of capitals leads to a small letter of ASCII. -/
theorem upperRuns_not_isLower :
    upperRuns.all (fun r => decide (122 < r.1 + r.2.2.2) || decide (r.2.1 + r.2.2.2 < 97)) =
      true := by
  decide +kernel

/-- No run of small letters leads to ASCII, but for the Kelvin sign. -/
theorem lowerRuns_not_ascii :
    lowerRuns.all (fun r => decide (128 ≤ r.1 + r.2.2.2) ||
      decide (r.1 + r.2.2.2 = 107 ∧ r.1 = r.2.1)) = true := by
  decide +kernel

/-- The capitals that stand for one character hold no small letter of ASCII. -/
theorem upperSpecials_not_isLower :
    upperSpecials.all (fun r => r.2.all fun n => !(Char.ofNat n).isLower) = true := by
  decide +kernel

/-! ### Capitals -/

theorem not_isLower_upperChar {c : Char} (h : 128 ≤ c.toNat) : (upperChar c).isLower = false := by
  have hc : upperChar c = mapRuns upperRuns c := by
    unfold upperChar
    rw [if_neg (by omega)]
  rw [hc, Bool.eq_false_iff, ne_eq, isLower_iff]
  rcases mapRuns_cases upperRuns c with hself | ⟨first, last, step, distance, hmem, hf, hl, hto⟩
  · rw [hself]
    omega
  · have hrun := List.all_eq_true.1 upperRuns_not_isLower _ hmem
    simp only [Bool.or_eq_true, decide_eq_true_eq] at hrun
    rw [hto]
    rcases toNat_ofNat_cases (c.toNat + distance).toNat with hn | hn <;> rw [hn] <;> omega

/-- The capital form of a character holds no small letter of ASCII. -/
theorem not_isLower_of_mem_upperImage {a c : Char} (h : c ∈ upperImage a) : c.isLower = false := by
  unfold upperImage at h
  split at h
  · rw [List.mem_singleton] at h
    rw [h, Char.isLower_toUpper_eq_false]
  · split at h
    · rename_i image hfind
      have hmem := List.mem_of_find?_eq_some hfind
      obtain ⟨n, hn, rfl⟩ := List.mem_map.1 h
      have hall := List.all_eq_true.1 (List.all_eq_true.1 upperSpecials_not_isLower _ hmem) n hn
      simpa using hall
    · rename_i hlarge _ _
      rw [List.mem_singleton] at h
      rw [h]
      exact not_isLower_upperChar (by omega)

/-- A text in capitals has no small letters of ASCII. -/
theorem isLower_of_mem_upper {s : String} {c : Char} (h : c ∈ (upper s).toList) :
    c.isLower = false := by
  rw [upper, String.toList_ofList] at h
  obtain ⟨a, -, hc⟩ := List.mem_flatMap.1 h
  exact not_isLower_of_mem_upperImage hc

/-! ### Small letters -/

/-- Only a character of ASCII has a small letter of ASCII other than `k`. -/
theorem toNat_lt_of_lowerChar_eq {c x : Char} (h : lowerChar c = x) (hx : x.isLower = true)
    (hk : x ≠ 'k') : c.toNat < 128 := by
  by_contra hc
  have hrange := (isLower_iff x).1 hx
  have hmap : lowerChar c = mapRuns lowerRuns c := by
    unfold lowerChar
    rw [if_neg hc]
  rw [hmap] at h
  rcases mapRuns_cases lowerRuns c with hself | ⟨first, last, step, distance, hmem, hf, hl, hto⟩
  · rw [hself] at h
    rw [h] at hc
    omega
  · have hrun := List.all_eq_true.1 lowerRuns_not_ascii _ hmem
    simp only [Bool.or_eq_true, decide_eq_true_eq] at hrun
    rw [hto] at h
    have hn : x.toNat = (c.toNat + distance).toNat := by
      rcases toNat_ofNat_cases (c.toNat + distance).toNat with hn | hn
      · rw [← h, hn]
      · rw [h] at hn
        omega
    rcases hrun with hrun | ⟨hrun, hone⟩
    · omega
    · refine hk (Char.toNat_inj.1 ?_)
      rw [hn]
      show (c.toNat + distance).toNat = 107
      omega

/-- A text of ASCII without capitals is its own small form. -/
theorem lower_eq_self {s : String} (h : ∀ c ∈ s.toList, c.toNat < 128 ∧ c.isUpper = false) :
    lower s = s := by
  have hlist : ∀ before, lowerAfter before s.toList = s.toList := by
    generalize s.toList = cs at h
    induction cs with
    | nil => exact fun _ => rfl
    | cons c cs ih =>
        intro before
        obtain ⟨⟨hascii, hsmall⟩, hcs⟩ := List.forall_mem_cons.1 h
        have hsigma : c.toNat ≠ 0x3a3 := by omega
        have hdotted : c.toNat ≠ 0x130 := by omega
        rw [lowerAfter, if_neg hsigma, if_neg hdotted, lowerChar_of_lt hascii,
          Char.toLower_eq_of_not_isUpper (by rw [hsmall]; exact Bool.false_ne_true), ih hcs]
        rfl
  rw [lower, hlist, String.ofList_toList]

/-- Small letters of ASCII without a `k`. -/
def isPlainWord (w : String) : Bool := w.toList.all fun x => x.isLower && x != 'k'

/-- A text whose small form is a word of ASCII is that word letter by letter, if it has no small
letters itself. -/
theorem eq_map_toUpper_of_lowerAfter {cs before w : List Char}
    (hcs : ∀ c ∈ cs, c.isLower = false) (hw : ∀ x ∈ w, x.isLower = true ∧ x ≠ 'k')
    (h : lowerAfter before cs = w) : cs = w.map Char.toUpper := by
  induction cs generalizing before w with
  | nil =>
      rw [← h]
      rfl
  | cons c cs ih =>
      unfold lowerAfter at h
      by_cases hsigma : c.toNat = 0x3a3
      · -- The small sigma is no letter of ASCII.
        exfalso
        obtain ⟨x, hx, hlarge⟩ : ∃ x ∈ w, 122 < x.toNat := by
          rw [← h]
          simp only [hsigma, if_true]
          split
          · exact ⟨Char.ofNat 0x3c2, by simp, by decide⟩
          · exact ⟨Char.ofNat 0x3c3, by simp, by decide⟩
        have := (isLower_iff x).1 (hw x hx).1
        omega
      · by_cases hdotted : c.toNat = 0x130
        · -- The dot of the small `i` is a character of its own.
          exfalso
          have hx : Char.ofNat 0x307 ∈ w := by
            rw [← h]
            simp [hdotted]
          exact absurd (hw _ hx).1 (by decide)
        · simp only [hsigma, hdotted, if_false, List.singleton_append] at h
          cases w with
          | nil => cases h
          | cons x w =>
              obtain ⟨hx, hrest⟩ := List.cons.inj h
              obtain ⟨hlower, hk⟩ := hw x (List.mem_cons_self ..)
              have hascii := toNat_lt_of_lowerChar_eq hx hlower hk
              rw [lowerChar_of_lt hascii] at hx
              have hupper : c.toUpper = c :=
                Char.toUpper_eq_of_not_isLower (by simp [hcs c (List.mem_cons_self ..)])
              rw [List.map_cons, ← hx, Char.toUpper_toLower_eq_toUpper, hupper,
                ih (fun d hd => hcs d (List.mem_cons_of_mem _ hd))
                  (fun y hy => hw y (List.mem_cons_of_mem _ hy)) hrest]

/-- **The small form tells a text in capitals**: it is a word of ASCII exactly if the text is that
word in capitals. -/
theorem lower_upper_eq_iff {s w : String} (hw : isPlainWord w = true)
    (hback : lower (String.ofList (w.toList.map Char.toUpper)) = w) :
    lower (upper s) = w ↔ upper s = String.ofList (w.toList.map Char.toUpper) := by
  constructor
  · intro h
    have hlist : lowerAfter [] (upper s).toList = w.toList := by
      rw [← h, lower, String.toList_ofList]
    have hletters : ∀ x ∈ w.toList, x.isLower = true ∧ x ≠ 'k' := by
      intro x hx
      have := List.all_eq_true.1 hw x hx
      simpa using this
    have := eq_map_toUpper_of_lowerAfter (fun c hc => isLower_of_mem_upper hc) hletters hlist
    rw [← this, String.ofList_toList]
  · intro h
    rw [h, hback]

end DartScaffold.Text
