/-
**Reading placeholders from left to right.**

A path is read from left to right: where a placeholder begins it is taken as a whole, and any other
character stands for itself.  This module states the reading as a relation, without the scanner that
performs it, and shows that the scanner gives the one reading that there is.  Since no placeholder
begins at a character other than an opening brace, what stands before the first brace of a path can
be dropped without changing its placeholders.

Main definitions:

* `Routing.Begins` — a placeholder stands at the beginning of some characters;
* `Routing.Reading` — the pieces that a path is read as.

Main results:

* `Routing.leading?_eq_some_iff` — the scanner finds a placeholder exactly where one begins;
* `Routing.reading_iff` — **the pieces of a path are its one reading**;
* `Routing.pieces_append` — characters before the first brace are read one by one.
-/

import Mathlib
import DartScaffold.Routing.Placeholder

set_option relaxedAutoImplicit false
set_option autoImplicit false

namespace DartScaffold.Routing

/-! ### Where a placeholder begins -/

/-- A placeholder stands at the beginning of some characters, and `rest` behind it: an opening
brace, a name of word characters, perhaps a question mark, and a closing brace. -/
def Begins (cs : List Char) (name : List Char) (isOptional : Bool) (rest : List Char) : Prop :=
  name ≠ [] ∧ (∀ c ∈ name, Text.isWordChar c = true) ∧
    cs = '\x7b' :: name ++ (if isOptional then ['?', '\x7d'] else ['\x7d']) ++ rest

/-- A run of characters goes as far as the first one of another kind. -/
theorem maximal_run {p : Char → Bool} {run : List Char} (rest : List Char)
    (hrun : ∀ c ∈ run, p c = true) (hrest : ∀ d, rest.head? = some d → p d = false) :
    (run ++ rest).takeWhile p = run ∧ (run ++ rest).dropWhile p = rest := by
  rw [List.takeWhile_append_of_pos hrun, List.dropWhile_append_of_pos hrun]
  cases rest with
  | nil => simp
  | cons d rest =>
      have hd : p d = false := hrest d rfl
      rw [List.takeWhile_cons_of_neg (by simp [hd]), List.dropWhile_cons_of_neg (by simp [hd])]
      simp

/-- A placeholder that the scanner finds has a name of word characters. -/
theorem name_of_leading? {cs name : List Char} {isOptional : Bool}
    (h : leading? cs = some (.placeholder name isOptional)) :
    name ≠ [] ∧ ∀ c ∈ name, Text.isWordChar c = true := by
  unfold leading? at h
  split at h
  · rename_i rest
    have hall : ∀ c ∈ rest.takeWhile Text.isWordChar, Text.isWordChar c = true :=
      fun c hc => List.mem_takeWhile_imp hc
    simp only at h
    generalize rest.takeWhile Text.isWordChar = found at h hall
    split at h
    · simp at h
    · rename_i hne
      split at h
      · simp only [Option.some.injEq, Piece.placeholder.injEq] at h
        exact h.1 ▸ ⟨by simpa using hne, hall⟩
      · simp only [Option.some.injEq, Piece.placeholder.injEq] at h
        exact h.1 ▸ ⟨by simpa using hne, hall⟩
      · simp at h
  · simp at h

/-- **The scanner finds a placeholder exactly where one begins.** -/
theorem leading?_eq_some_iff (cs : List Char) (name : List Char) (isOptional : Bool) :
    leading? cs = some (.placeholder name isOptional) ↔
      ∃ rest, Begins cs name isOptional rest := by
  constructor
  · intro h
    obtain ⟨hne, hname⟩ := name_of_leading? h
    exact ⟨_, hne, hname, eq_text_append_of_leading? h⟩
  · rintro ⟨rest, hne, hname, rfl⟩
    have hempty : name.isEmpty = false := by simpa using hne
    cases isOptional with
    | true =>
        obtain ⟨htake, hdrop⟩ := maximal_run ('?' :: '\x7d' :: rest) hname
          (by rintro d ⟨⟩; decide)
        simp only [leading?, if_true, List.cons_append, List.append_assoc, List.nil_append, htake,
          hdrop, hempty, Bool.false_eq_true, if_false]
    | false =>
        obtain ⟨htake, hdrop⟩ := maximal_run ('\x7d' :: rest) hname
          (by rintro d ⟨⟩; decide)
        simp only [leading?, Bool.false_eq_true, if_false, List.cons_append, List.append_assoc,
          List.nil_append, htake, hdrop, hempty]

/-- The scanner finds placeholders only. -/
theorem leading?_ne_char (cs : List Char) (c : Char) : leading? cs ≠ some (.char c) := by
  unfold leading?
  split
  · dsimp only
    split
    · simp
    · split <;> simp
  · simp

/-- No placeholder begins at a character other than an opening brace. -/
theorem leading?_cons_of_ne {c : Char} (h : c ≠ '\x7b') (cs : List Char) :
    leading? (c :: cs) = none := by
  unfold leading?
  split
  · rename_i heq
    exact absurd (List.cons.inj heq).1 h
  · rfl

/-! ### Readings -/

/-- The pieces that a path is read as, from left to right: a placeholder where one begins, and
else a character. -/
inductive Reading : List Char → List Piece → Prop
  | nil : Reading [] []
  | placeholder {cs name rest : List Char} {isOptional : Bool} {ps : List Piece}
      (here : Begins cs name isOptional rest) (more : Reading rest ps) :
      Reading cs (.placeholder name isOptional :: ps)
  | char {c : Char} {cs : List Char} {ps : List Piece}
      (here : ∀ name isOptional rest, ¬ Begins (c :: cs) name isOptional rest)
      (more : Reading cs ps) : Reading (c :: cs) (.char c :: ps)

/-- What the scanner does where a placeholder begins. -/
theorem pieces_of_begins {cs name rest : List Char} {isOptional : Bool}
    (h : Begins cs name isOptional rest) :
    pieces 0 cs = .placeholder name isOptional :: pieces 0 rest := by
  have hlead := (leading?_eq_some_iff cs name isOptional).2 ⟨rest, h⟩
  obtain ⟨-, -, hcs⟩ := h
  cases cs with
  | nil => simp at hcs
  | cons c tail =>
      -- The scanner passes over the text of the placeholder, of which it has read one character.
      have htail : tail.drop ((Piece.placeholder name isOptional).text.length - 1) = rest := by
        have hdrop := congrArg (List.drop (Piece.placeholder name isOptional).text.length) hcs
        rw [show '\x7b' :: name ++ (if isOptional then ['?', '\x7d'] else ['\x7d']) =
          (Piece.placeholder name isOptional).text from rfl, List.drop_left] at hdrop
        rw [← hdrop]
        simp [Piece.text]
      simp only [pieces, hlead]
      rw [pieces_skip, htail]

/-- What the scanner does where none begins. -/
theorem pieces_of_not_begins {c : Char} {cs : List Char}
    (h : ∀ name isOptional rest, ¬ Begins (c :: cs) name isOptional rest) :
    pieces 0 (c :: cs) = .char c :: pieces 0 cs := by
  have hlead : leading? (c :: cs) = none := by
    cases hl : leading? (c :: cs) with
    | none => rfl
    | some p =>
        cases p with
        | char d => exact absurd hl (leading?_ne_char _ d)
        | placeholder name isOptional =>
            obtain ⟨rest, hrest⟩ := (leading?_eq_some_iff _ name isOptional).1 hl
            exact absurd hrest (h name isOptional rest)
  simp only [pieces, hlead]

/-- **The pieces of a path are its one reading.** -/
theorem reading_iff (cs : List Char) (ps : List Piece) : Reading cs ps ↔ pieces 0 cs = ps := by
  constructor
  · intro h
    induction h with
    | nil => rfl
    | placeholder here _ ih => rw [pieces_of_begins here, ih]
    | char here _ ih => rw [pieces_of_not_begins here, ih]
  · -- What stands behind a placeholder is shorter, so the induction is on the length.
    rintro rfl
    induction h : cs.length using Nat.strongRecOn generalizing cs with
    | _ n ih =>
        cases cs with
        | nil => exact .nil
        | cons c tail =>
            by_cases hb : ∃ name isOptional rest, Begins (c :: tail) name isOptional rest
            · obtain ⟨name, isOptional, rest, hb⟩ := hb
              rw [pieces_of_begins hb]
              refine .placeholder hb (ih rest.length ?_ rest rfl)
              rw [← h, hb.2.2]
              simp
              omega
            · push Not at hb
              rw [pieces_of_not_begins hb]
              exact .char hb (ih tail.length (by simp [← h]) tail rfl)

/-- Characters before the first brace are read one by one. -/
theorem pieces_append {before : List Char} (h : '\x7b' ∉ before) (rest : List Char) :
    pieces 0 (before ++ rest) = before.map .char ++ pieces 0 rest := by
  induction before with
  | nil => rfl
  | cons c before ih =>
      obtain ⟨hc, hbefore⟩ := not_or.1 (List.mem_cons.not.1 h)
      rw [List.cons_append, List.map_cons, List.cons_append, ← ih hbefore]
      simp only [pieces, leading?_cons_of_ne (Ne.symm hc)]

/-- Every character that is read stands in the path. -/
theorem mem_of_char_mem_pieces {cs : List Char} {c : Char} (h : .char c ∈ pieces 0 cs) :
    c ∈ cs := by
  rw [← flatMap_text_pieces cs]
  exact List.mem_flatMap.2 ⟨.char c, h, by simp [Piece.text]⟩

end DartScaffold.Routing
