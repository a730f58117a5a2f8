/-
**Reading a text in quotes.**

A text between single quotes ends at the first quote that is not escaped.  A backslash begins an
escape: a letter for a control character, the number of a code unit in two or four digits, that of a
code point between braces, or any other character for itself.  A dollar sign begins something that
is worked out when the program runs, and no line break may stand in the text.  What the text stands
for is a row of code units of two bytes.

If a name is put between quotes as it is, the text stands for the name just if each of its
characters stands for itself.  The reason is that an escape takes more units than it gives: once
there was one, what is read stays behind the name, and it cannot catch up before the next quote.

Main definitions:

* `Dart.unitsOf`, `Dart.nameUnits` — the code units of a code point, and of a name;
* `Dart.Escape`, `Dart.Escape.step` — what is read of an escape, and what a character does;
* `Dart.readQuoted` — what a text in quotes stands for, from behind its first quote.

Main results:

* `Dart.Escape.weight_step` — **no character gives more than what was taken**;
* `Dart.readQuoted_ne` — what is behind a name does not catch up;
* `Dart.readQuoted_eq_iff` — **a name in quotes stands for itself just if its characters do**.
-/

import Mathlib
import DartScaffold.Datum.Parser
import DartScaffold.Proofs.Service.StringBody

set_option relaxedAutoImplicit false
set_option autoImplicit false

namespace DartScaffold.Dart

open Datum (hexValue?)

/-! ### Code units -/

/-- The code units of a code point: one, or two beyond the first plane. -/
def unitsOf (n : Nat) : List Nat :=
  if n < 0x10000 then [n] else [0xD800 + (n - 0x10000) / 0x400, 0xDC00 + (n - 0x10000) % 0x400]

/-- The code units of a name. -/
def nameUnits (cs : List Char) : List Nat := cs.flatMap fun c => unitsOf c.toNat

theorem nameUnits_cons (c : Char) (cs : List Char) :
    nameUnits (c :: cs) = unitsOf c.toNat ++ nameUnits cs :=
  List.flatMap_cons

theorem nameUnits_append (cs ds : List Char) :
    nameUnits (cs ++ ds) = nameUnits cs ++ nameUnits ds :=
  List.flatMap_append

theorem length_unitsOf_pos (n : Nat) : 0 < (unitsOf n).length := by
  unfold unitsOf
  split_ifs <;> exact Nat.succ_pos _

theorem length_unitsOf_le (n : Nat) : (unitsOf n).length ≤ 2 := by
  unfold unitsOf
  split_ifs
  · exact Nat.le_succ 1
  · exact le_refl 2

/-- The code unit of a quote stands for nothing else. -/
theorem quote_not_mem_unitsOf {c : Char} (h : c ≠ '\'') : 39 ∉ unitsOf c.toNat := by
  unfold unitsOf
  split_ifs
  · rw [List.mem_singleton]
    exact fun hunit => h (Char.toNat_inj.1 hunit.symm)
  · simp only [List.mem_cons, List.not_mem_nil, or_false, not_or]
    omega

/-! ### Characters -/

/-- What is read of an escape: nothing, the backslash, the letter of a number, some of its digits,
or some of those between braces, with what they make. -/
inductive Escape where
  | no
  | begun
  | number
  | digits (left value : Nat)
  | braced (count value : Nat)
deriving DecidableEq, Repr

/-- What a character does: it ends the text, it may not stand there, or reading goes on with some
code units. -/
inductive Step where
  | ends
  | fails
  | goes (next : Escape) (units : List Nat)
deriving DecidableEq, Repr

/-- The code units that a backslash and a character stand for. -/
def escapedUnits (c : Char) : List Nat :=
  match c with
  | 'n' => [0x0a]
  | 'r' => [0x0d]
  | 'f' => [0x0c]
  | 'b' => [0x08]
  | 't' => [0x09]
  | 'v' => [0x0b]
  | _ => unitsOf c.toNat

/-- A further digit of a number. -/
def digitStep (left value : Nat) (c : Char) : Step :=
  match hexValue? c with
  | none => .fails
  | some d =>
      if left ≤ 1 then .goes .no [value * 16 + d]
      else .goes (.digits (left - 1) (value * 16 + d)) []

/-- A further digit of a number between braces, or its end. -/
def bracedStep (count value : Nat) (c : Char) : Step :=
  if c = '\x7d' then
    if 1 ≤ count ∧ value ≤ 0x10ffff then .goes .no (unitsOf value) else .fails
  else
    match hexValue? c with
    | none => .fails
    | some d => if count < 6 then .goes (.braced (count + 1) (value * 16 + d)) [] else .fails

/-- What a character does, if some of an escape was read. -/
def Escape.step (e : Escape) (c : Char) : Step :=
  match e with
  | .no =>
      if c = '\'' then .ends
      else if c = '\\' then .goes .begun []
      else if c = '$' ∨ c = '\n' ∨ c = '\r' then .fails
      else .goes .no (unitsOf c.toNat)
  | .begun =>
      if c = 'x' then .goes (.digits 2 0) []
      else if c = 'u' then .goes .number []
      else if c = '\n' ∨ c = '\r' then .fails
      else .goes .no (escapedUnits c)
  | .number => if c = '\x7b' then .goes (.braced 0 0) [] else digitStep 4 0 c
  | .digits left value => digitStep left value c
  | .braced count value => bracedStep count value c

/-- What a text in quotes stands for, from behind its first quote, if some of an escape was read. -/
def readQuoted : Escape → List Char → Option (List Nat)
  | _, [] => none
  | e, c :: rest =>
      match e.step c with
      | .ends => some []
      | .fails => none
      | .goes next units => (readQuoted next rest).map (units ++ ·)

/-- How many code units were taken at least without any being given; in front of an escape, one that
is behind. -/
def Escape.weight : Escape → Nat
  | .no | .begun => 1
  | .number | .digits .. => 2
  | .braced .. => 3

theorem Escape.weight_pos (e : Escape) : 0 < e.weight := by
  cases e <;> exact Nat.succ_pos _

theorem length_escapedUnits_le (c : Char) : (escapedUnits c).length ≤ (unitsOf c.toNat).length := by
  unfold escapedUnits
  split
  case h_7 => exact le_refl _
  all_goals exact length_unitsOf_pos _

theorem weight_digitStep {left value : Nat} {c : Char} {next : Escape} {units : List Nat}
    (h : digitStep left value c = .goes next units) : next.weight + units.length ≤ 2 := by
  unfold digitStep at h
  split at h
  · cases h
  · split_ifs at h
    · obtain ⟨rfl, rfl⟩ := Step.goes.inj h
      exact le_refl 2
    · obtain ⟨rfl, rfl⟩ := Step.goes.inj h
      exact le_refl 2

theorem weight_bracedStep {count value : Nat} {c : Char} {next : Escape} {units : List Nat}
    (h : bracedStep count value c = .goes next units) : next.weight + units.length ≤ 3 := by
  unfold bracedStep at h
  by_cases hend : c = '\x7d'
  · rw [if_pos hend] at h
    split_ifs at h
    obtain ⟨rfl, rfl⟩ := Step.goes.inj h
    exact Nat.add_le_add_left (length_unitsOf_le value) 1
  · rw [if_neg hend] at h
    split at h
    · cases h
    · split at h
      · obtain ⟨rfl, rfl⟩ := Step.goes.inj h
        exact le_refl 3
      · cases h

/-- **No character gives more than what was taken.** -/
theorem Escape.weight_step {e next : Escape} {c : Char} {units : List Nat}
    (h : e.step c = .goes next units) :
    next.weight + units.length ≤ e.weight + (unitsOf c.toNat).length := by
  have hpos := length_unitsOf_pos c.toNat
  cases e with
  | no =>
      dsimp only [Escape.step] at h
      split_ifs at h
      · obtain ⟨rfl, rfl⟩ := Step.goes.inj h
        exact Nat.add_le_add_left (Nat.zero_le _) 1
      · obtain ⟨rfl, rfl⟩ := Step.goes.inj h
        exact le_refl _
  | begun =>
      dsimp only [Escape.step] at h
      split_ifs at h
      · obtain ⟨rfl, rfl⟩ := Step.goes.inj h
        exact Nat.add_le_add_left hpos 1
      · obtain ⟨rfl, rfl⟩ := Step.goes.inj h
        exact Nat.add_le_add_left hpos 1
      · obtain ⟨rfl, rfl⟩ := Step.goes.inj h
        exact Nat.add_le_add_left (length_escapedUnits_le c) 1
  | number =>
      dsimp only [Escape.step] at h
      split_ifs at h
      · obtain ⟨rfl, rfl⟩ := Step.goes.inj h
        exact Nat.add_le_add_left hpos 2
      · exact (weight_digitStep h).trans (Nat.le_add_right 2 _)
  | digits left value => exact (weight_digitStep h).trans (Nat.le_add_right 2 _)
  | braced count value => exact (weight_bracedStep h).trans (Nat.le_add_right 3 _)

/-! ### Names in quotes -/

section

variable {e : Escape} {u v : List Nat}

/-- A quote ends the text, or it is escaped; it may not stand within a number. -/
theorem readQuoted_quote_ne (hquote : 39 ∉ u) (hweight : e.weight ≤ u.length) (rest : List Char) :
    readQuoted e ('\'' :: rest) ≠ some (u ++ v) := by
  cases u with
  | nil => exact absurd hweight (Nat.not_le.2 e.weight_pos)
  | cons n u =>
      cases e with
      | no => exact fun h => List.cons_ne_nil _ _ (Option.some.inj h).symm
      | begun =>
          intro h
          obtain ⟨w, -, hw⟩ := Option.map_eq_some_iff.1 h
          have hn : 39 = n := (List.cons.inj hw).1
          exact hquote (hn ▸ List.mem_cons_self ..)
      | number | digits | braced => exact fun h => Option.noConfusion rfl (heq_of_eq h)

/-- **What is behind a name does not catch up.**  The induction is on the name; of the code units
that were taken and not given, more are left than the escape needs. -/
theorem readQuoted_ne (hquote : 39 ∉ u) (hweight : e.weight ≤ u.length) (w rest : List Char) :
    readQuoted e (w ++ '\'' :: rest) ≠ some (u ++ nameUnits w) := by
  induction w generalizing e u with
  | nil => exact readQuoted_quote_ne hquote hweight rest
  | cons c w ih =>
      by_cases hc : c = '\''
      · rw [hc, List.cons_append]
        exact readQuoted_quote_ne hquote hweight _
      · intro h
        rw [List.cons_append, readQuoted] at h
        cases hstep : e.step c with
        | ends =>
            rw [hstep] at h
            have hnone := (List.append_eq_nil_iff.1 (Option.some.inj h).symm).1
            rw [hnone] at hweight
            exact absurd hweight (Nat.not_le.2 e.weight_pos)
        | fails =>
            rw [hstep] at h
            cases h
        | goes next units =>
            rw [hstep] at h
            obtain ⟨more, hmore, hunits⟩ := Option.map_eq_some_iff.1 h
            have hbound := Escape.weight_step hstep
            -- What is given was taken before, so it can be cut off from what was taken.
            rw [nameUnits_cons, ← List.append_assoc] at hunits
            have htaken : (u ++ unitsOf c.toNat).length = u.length + (unitsOf c.toNat).length :=
              List.length_append
            obtain ⟨left, hleft⟩ : units <+: u ++ unitsOf c.toNat :=
              List.prefix_of_prefix_length_le ⟨more, hunits⟩ ⟨nameUnits w, rfl⟩ (by omega)
            rw [← hleft, List.append_assoc, List.append_cancel_left_eq] at hunits
            rw [hunits] at hmore
            refine ih ?_ ?_ hmore
            · have hboth : 39 ∉ u ++ unitsOf c.toNat :=
                List.not_mem_append hquote (quote_not_mem_unitsOf hc)
              rw [← hleft] at hboth
              exact fun hmem => hboth (List.mem_append_right _ hmem)
            · rw [← hleft, List.length_append] at htaken
              omega

end

/-- A character that stands for itself. -/
theorem step_of_isPlain {c : Char} (h : isPlain c = true) :
    Escape.no.step c = .goes .no (unitsOf c.toNat) := by
  simp only [isPlain, Bool.and_eq_true, bne_iff_ne, ne_eq] at h
  obtain ⟨⟨⟨⟨hdollar, hquote⟩, hslash⟩, hfeed⟩, hreturn⟩ := h
  rw [Escape.step, if_neg hquote, if_neg hslash, if_neg (by simp [hdollar, hfeed, hreturn])]

/-- **A name in quotes stands for itself just if its characters do.** -/
theorem readQuoted_eq_iff (w rest : List Char) :
    readQuoted .no (w ++ '\'' :: rest) = some (nameUnits w) ↔ ∀ c ∈ w, isPlain c = true := by
  induction w with
  | nil => exact ⟨fun _ => List.forall_mem_nil _, fun _ => rfl⟩
  | cons c w ih =>
      rw [List.forall_mem_cons, ← ih, List.cons_append, readQuoted, nameUnits_cons]
      by_cases hplain : isPlain c = true
      · rw [step_of_isPlain hplain]
        refine ⟨fun h => ⟨hplain, ?_⟩, fun h => Option.map_eq_some_iff.2 ⟨_, h.2, rfl⟩⟩
        obtain ⟨more, hmore, hunits⟩ := Option.map_eq_some_iff.1 h
        rw [hmore, List.append_cancel_left hunits]
      · refine ⟨fun h => ?_, fun h => absurd h.1 hplain⟩
        dsimp only [Escape.step] at h
        split_ifs at h with hquote hslash hfails
        · have hnone := (List.append_eq_nil_iff.1 (Option.some.inj h).symm).1
          exact absurd (congrArg List.length hnone) (length_unitsOf_pos _).ne'
        · -- Behind the backslash, its own code unit is left.
          obtain ⟨more, hmore, rfl⟩ := Option.map_eq_some_iff.1 h
          rw [hslash] at hmore
          exact absurd hmore (readQuoted_ne (by decide) (le_refl 1) w rest)
        · exact absurd (by simp_all [isPlain]) hplain

-- Escapes are read with what they stand for, and the text ends at the quote without a backslash.
example : readQuoted .no "it\\'s \\x41\\u\x7b1f600\x7d', next".toList =
    some (nameUnits "it's A😀".toList) := by decide

/-- In front of a line break there is not enough to make up for it. -/
theorem length_of_readQuoted {e : Escape} {w rest : List Char} {units : List Nat}
    (h : readQuoted e (w ++ '\n' :: rest) = some units) :
    units.length < e.weight + (nameUnits w).length := by
  induction w generalizing e units with
  | nil =>
      cases e <;> exact Option.noConfusion rfl (heq_of_eq h)
  | cons c w ih =>
      rw [List.cons_append, readQuoted] at h
      rw [nameUnits_cons, List.length_append]
      cases hstep : e.step c with
      | ends =>
          rw [hstep] at h
          rw [← Option.some.inj h]
          exact Nat.add_pos_left e.weight_pos _
      | fails =>
          rw [hstep] at h
          cases h
      | goes next given =>
          rw [hstep] at h
          obtain ⟨more, hmore, rfl⟩ := Option.map_eq_some_iff.1 h
          have hbound := Escape.weight_step hstep
          have hrest := ih hmore
          rw [List.length_append]
          omega

end DartScaffold.Dart
