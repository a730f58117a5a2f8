/-
**Documents that are written and read again.**

A document over several lines is read as the very document that was written, as long as there are no
doubles in it: they are written in the shortest form, which is another matter.  Whole numbers must
not have more digits than are read, lists and objects must not be nested deeper than is read, and no
object may have two members of one name, since the later one would count.

The reader goes forward and leaves what stands behind a value, so a value is told together with
what may stand there: nothing, a comma, or the line break before a closing bracket.  Values, the
items of lists and the members of objects are read by three functions that call each other with less
fuel, so the induction is on the fuel, for the three of them together.

Main definitions:

* `Datum.Reads` — a reader gives a value and leaves the rest;
* `Datum.Closes` — what may stand behind a value;
* `Datum.Rereads` — with some fuel, whatever is not longer is read as it was written.

Main results:

* `Datum.readText_flatMap`, `Datum.readScalar_int` — texts and whole numbers;
* `Datum.rereads` — values, items and members;
* `Datum.parse_pretty` — **a document that is written is read again**.
-/

import Mathlib
import DartScaffold.Datum.Parser
import DartScaffold.Proofs.Datum.Written

set_option relaxedAutoImplicit false
set_option autoImplicit false

namespace DartScaffold.Datum

variable {α : Type} {rest : List Char}

/-- A reader gives a value and leaves the rest. -/
def Reads (x : Except ReadError (α × Nat × List Char)) (a : α) (rest : List Char) : Prop :=
  ∃ pos, x = .ok (a, pos, rest)

/-! ### Texts -/

/-- The four digits by which a control character is written. -/
theorem fourHex?_hexDigits : ∀ n : Fin 32,
    (Text.hexDigits 4 n).length = 4 ∧ fourHex? (Text.hexDigits 4 n) = some n.val := by
  decide +kernel

theorem fourHex?_append {digits : List Char} (h : digits.length = 4) (rest : List Char) :
    fourHex? (digits ++ rest) = fourHex? digits := by
  unfold fourHex?
  rw [List.take_append_of_le_length (by omega)]

/-- A control character that is written with four digits. -/
theorem readText_fourDigits {digits : List Char} {n : Nat} (hlength : digits.length = 4)
    (hvalue : fourHex? digits = some n) (hn : n < 0x20) (start fuel : Nat) (read : List Char)
    (pos : Nat) (hrest : rest ≠ []) :
    readText start (fuel + 1) read pos ('\\' :: 'u' :: (digits ++ rest)) =
      readText start fuel (Char.ofNat n :: read) (pos + 6) rest := by
  have hmore : ¬ (digits ++ rest).length ≤ 4 := by
    have hpos := List.length_pos_iff.2 hrest
    rw [List.length_append, hlength]
    omega
  have hdrop : (digits ++ rest).drop 4 = rest := by
    rw [← hlength, List.drop_left]
  rw [readText.eq_def]
  simp only [if_neg hmore, fourHex?_append hlength, hvalue, hdrop]
  rw [if_neg (by omega), if_neg (by omega)]

/-- A character is read as it was written. -/
theorem readText_escapeChar (c : Char) (start fuel : Nat) (read : List Char) (pos : Nat)
    (hrest : rest ≠ []) :
    ∃ pos', readText start (fuel + 1) read pos (escapeChar c ++ rest) =
      readText start fuel (c :: read) pos' rest := by
  unfold escapeChar
  split_ifs with hquoted hline hreturn htab hback hform hcontrol
  · rcases Bool.or_eq_true _ _ ▸ hquoted with hc | hc
    · obtain rfl := eq_of_beq hc
      exact ⟨_, rfl⟩
    · obtain rfl := eq_of_beq hc
      exact ⟨_, rfl⟩
  · obtain rfl := eq_of_beq hline
    exact ⟨_, rfl⟩
  · obtain rfl := eq_of_beq hreturn
    exact ⟨_, rfl⟩
  · obtain rfl := eq_of_beq htab
    exact ⟨_, rfl⟩
  · obtain rfl := eq_of_beq hback
    exact ⟨_, rfl⟩
  · obtain rfl := eq_of_beq hform
    exact ⟨_, rfl⟩
  · obtain ⟨hlength, hvalue⟩ := fourHex?_hexDigits ⟨c.toNat, hcontrol⟩
    refine ⟨pos + 6, ?_⟩
    have hread := readText_fourDigits hlength hvalue hcontrol start fuel read pos hrest
    rwa [Char.ofNat_toNat] at hread
  · simp only [Bool.or_eq_true, beq_iff_eq, not_or] at hquoted
    refine ⟨pos + 1, ?_⟩
    show readText start (fuel + 1) read pos (c :: rest) = _
    rw [readText.eq_def]
    dsimp only
    split
    · rename_i heq; cases heq
    · rename_i heq
      exact absurd (List.cons.inj heq).1 hquoted.1
    · rename_i heq
      exact absurd (List.cons.inj heq).1 hquoted.2
    · rename_i heq
      exact absurd (List.cons.inj heq).1 hquoted.2
    · rename_i heq
      exact absurd (List.cons.inj heq).1 hquoted.2
    · rename_i heq
      obtain ⟨rfl, rfl⟩ := List.cons.inj heq
      rw [if_neg hcontrol]

/-- A text is read as it was written. -/
theorem readText_flatMap (cs : List Char) (start : Nat) {fuel : Nat} (read : List Char) (pos : Nat)
    (hfuel : cs.length < fuel) :
    Reads (readText start fuel read pos (cs.flatMap escapeChar ++ '"' :: rest))
      (String.ofList (read.reverse ++ cs)) rest := by
  induction cs generalizing fuel read pos with
  | nil =>
      obtain ⟨fuel, rfl⟩ : ∃ n, fuel = n + 1 := ⟨fuel - 1, by simp at hfuel; omega⟩
      refine ⟨pos + 1, ?_⟩
      rw [List.append_nil]
      rfl
  | cons c cs ih =>
      obtain ⟨fuel, rfl⟩ : ∃ n, fuel = n + 1 := ⟨fuel - 1, by simp at hfuel; omega⟩
      rw [List.flatMap_cons, List.append_assoc]
      have hnonempty : cs.flatMap escapeChar ++ '"' :: rest ≠ [] := by simp
      obtain ⟨pos', hstep⟩ := readText_escapeChar c start fuel read pos hnonempty
      rw [hstep]
      have hrest := ih (c :: read) pos' (by simpa using hfuel)
      simpa using hrest

/-- A text is read up to its closing quote. -/
theorem readText_quoted (s : String) (start pos : Nat) (rest : List Char) :
    Reads (readText start ((s.toList.flatMap escapeChar ++ '"' :: rest).length + 1) [] pos
      (s.toList.flatMap escapeChar ++ '"' :: rest)) s rest := by
  have hlength := length_le_flatMap_escapeChar s.toList
  have hfuel : s.toList.length < (s.toList.flatMap escapeChar ++ '"' :: rest).length + 1 := by
    rw [List.length_append]
    omega
  have hread : Reads _ _ rest := readText_flatMap s.toList start [] pos hfuel
  rwa [List.reverse_nil, List.nil_append, String.ofList_toList] at hread

/-! ### What stands behind a value -/

/-- What may stand behind a value: nothing, a comma, or a line break. -/
def Closes (rest : List Char) : Prop := ∀ c ∈ rest.head?, c = ',' ∨ c = '\n'

theorem closes_nil : Closes [] := by
  intro c hc
  cases hc

theorem closes_comma (rest : List Char) : Closes (',' :: rest) := by
  intro c hc
  exact .inl (Option.some.inj hc).symm

theorem closes_lineBreak (rest : List Char) : Closes ('\n' :: rest) := by
  intro c hc
  exact .inr (Option.some.inj hc).symm

/-- No digit stands behind a value. -/
theorem Closes.takeWhile_isDigit (h : Closes rest) : rest.takeWhile Char.isDigit = [] := by
  cases rest with
  | nil => rfl
  | cons c rest =>
      have hc : c.isDigit = false := by
        rcases h c rfl with rfl | rfl <;> decide
      rw [List.takeWhile_cons_of_neg (by rw [hc]; decide)]

theorem Closes.dropWhile_isDigit (h : Closes rest) : rest.dropWhile Char.isDigit = rest := by
  cases rest with
  | nil => rfl
  | cons c rest =>
      have hc : c.isDigit = false := by
        rcases h c rfl with rfl | rfl <;> decide
      rw [List.dropWhile_cons_of_neg (by rw [hc]; decide)]

theorem Closes.fractionPart_eq (h : Closes rest) : fractionPart rest = (none, rest) := by
  cases rest with
  | nil => rfl
  | cons c rest => rcases h c rfl with rfl | rfl <;> rfl

theorem Closes.exponentPart_eq (h : Closes rest) : exponentPart rest = (none, rest) := by
  cases rest with
  | nil => rfl
  | cons c rest => rcases h c rfl with rfl | rfl <;> rfl

/-- A line break may stand behind a value. -/
theorem closes_newLine (level : Nat) (rest : List Char) :
    Closes ((newLine level).toList ++ rest) := by
  rw [toList_newLine]
  exact closes_lineBreak _

/-! ### Words and numbers -/

theorem wholePart_toDigits (n : Nat) (hrest : Closes rest) :
    wholePart (Nat.toDigits 10 n ++ rest) = (Nat.toDigits 10 n, rest) := by
  rcases Nat.eq_zero_or_pos n with rfl | hn
  · rw [Nat.toDigits_zero]
    rfl
  · have hdigits : ∀ c ∈ Nat.toDigits 10 n, c.isDigit = true :=
      fun c hc => Nat.isDigit_of_mem_toDigits (by omega) (by omega) hc
    have hspan : (Nat.toDigits 10 n ++ rest).span Char.isDigit = (Nat.toDigits 10 n, rest) := by
      rw [List.span_eq_takeWhile_dropWhile, List.takeWhile_append_of_pos hdigits,
        List.dropWhile_append_of_pos hdigits, hrest.takeWhile_isDigit, hrest.dropWhile_isDigit,
        List.append_nil]
    have hhead : (Nat.toDigits 10 n ++ rest).head? ≠ some '0' := by
      rw [List.head?_append_of_ne_nil _ Nat.toDigits_ne_nil]
      exact head?_toDigits_ne_zero hn
    unfold wholePart
    split
    · rename_i heq
      rw [heq] at hhead
      exact absurd rfl hhead
    · exact hspan

theorem digitsValue_toDigits (n : Nat) : digitsValue (Nat.toDigits 10 n) = n := by
  calc digitsValue (Nat.toDigits 10 n)
      = Nat.ofDigitChars 10 (Nat.toDigits 10 n) 0 := by
        rw [Nat.ofDigitChars_eq_foldl]
        unfold digitsValue
        congr 1
        funext m c
        rw [Nat.mul_comm]
        rfl
    _ = n := Nat.ofDigitChars_ten_toDigits

/-- A number that is not too large does not have too many digits. -/
theorem length_toDigits_le {n : Nat} (hn : n < 10 ^ maxDigits) :
    ¬ maxDigits < (Nat.toDigits 10 n).length := by
  rw [Nat.not_lt]
  exact (Nat.length_toDigits_le_iff (by omega) (by decide)).2 hn

/-- Digits are read as the number that they write. -/
theorem readNumber_unsigned {n : Nat} (hn : n < 10 ^ maxDigits) (hrest : Closes rest) (pos : Nat) :
    Reads (readNumber pos (Nat.toDigits 10 n ++ rest)) (.int n) rest := by
  have hlength := length_toDigits_le hn
  have hne : (Nat.toDigits 10 n).isEmpty = false :=
    List.isEmpty_eq_false_iff.2 Nat.toDigits_ne_nil
  have hsign : ∀ more, Nat.toDigits 10 n ++ rest ≠ '-' :: more := by
    intro more heq
    have hmem : '-' ∈ Nat.toDigits 10 n := by
      cases hds : Nat.toDigits 10 n with
      | nil => exact absurd hds Nat.toDigits_ne_nil
      | cons c cs =>
          rw [hds] at heq
          rw [(List.cons.inj heq).1]
          exact List.mem_cons_self ..
    exact absurd (Nat.isDigit_of_mem_toDigits (by omega) (by omega) hmem) (by decide)
  unfold readNumber Reads
  split
  · rename_i heq
    split at heq
    · rename_i more hmore
      exact absurd hmore (hsign more)
    · obtain ⟨rfl, rfl⟩ := Prod.mk.inj heq
      simp only [wholePart_toDigits n hrest, hne, hrest.fractionPart_eq, hrest.exponentPart_eq,
        if_neg hlength, digitsValue_toDigits]
      exact ⟨_, rfl⟩

theorem readNumber_negative {n : Nat} (hn : n < 10 ^ maxDigits) (hrest : Closes rest) (pos : Nat) :
    Reads (readNumber pos ('-' :: (Nat.toDigits 10 n ++ rest))) (.int (-n)) rest := by
  have hlength := length_toDigits_le hn
  have hne : (Nat.toDigits 10 n).isEmpty = false :=
    List.isEmpty_eq_false_iff.2 Nat.toDigits_ne_nil
  unfold readNumber Reads
  simp only [wholePart_toDigits n hrest, hne, hrest.fractionPart_eq, hrest.exponentPart_eq,
    if_neg hlength, digitsValue_toDigits]
  exact ⟨_, rfl⟩

/-- No word begins with a digit, nor with a minus sign and a digit. -/
theorem find?_literals_eq_none {c : Char} (hc : c.isDigit = true) (more : List Char) :
    (literals.find? fun w => w.1.toList.isPrefixOf (c :: more)) = none ∧
      (literals.find? fun w => w.1.toList.isPrefixOf ('-' :: c :: more)) = none := by
  have hne : ∀ w : Char, w.isDigit = false → (w == c) = false := by
    intro w hw
    rw [beq_eq_false_iff_ne]
    rintro rfl
    rw [hw] at hc
    cases hc
  have hfirst : ∀ w ∈ literals, w.1.toList.isPrefixOf (c :: more) = false ∧
      w.1.toList.isPrefixOf ('-' :: c :: more) = false := by
    intro w hw
    simp only [literals, List.mem_cons, List.not_mem_nil, or_false] at hw
    rcases hw with rfl | rfl | rfl | rfl | rfl | rfl <;>
      simp [List.isPrefixOf, hne]
  constructor
  · rw [List.find?_eq_none]
    intro w hw
    rw [(hfirst w hw).1]
    decide
  · rw [List.find?_eq_none]
    intro w hw
    rw [(hfirst w hw).2]
    decide

/-- A whole number is read as it was written. -/
theorem readScalar_int {i : Int} (hi : i.natAbs < 10 ^ maxDigits) (hrest : Closes rest)
    (pos : Nat) : Reads (readScalar pos ((toString i).toList ++ rest)) (.int i) rest := by
  obtain ⟨c, cs, hds, hc⟩ := exists_toDigits_eq_cons i.natAbs
  rw [toList_toString_int]
  by_cases hsign : 0 ≤ i
  · have hnumber := readNumber_unsigned hi hrest pos
    rw [Int.natAbs_of_nonneg hsign] at hnumber
    rw [if_pos hsign]
    unfold readScalar
    rw [hds, List.cons_append, (find?_literals_eq_none hc (cs ++ rest)).1]
    rwa [hds] at hnumber
  · have hnumber := readNumber_negative hi hrest pos
    have hvalue : -(i.natAbs : Int) = i := by omega
    rw [hvalue] at hnumber
    rw [if_neg hsign]
    unfold readScalar
    rw [hds, List.cons_append, List.cons_append, (find?_literals_eq_none hc (cs ++ rest)).2]
    rwa [hds] at hnumber

/-- A value that does not begin with a quote, a brace or a bracket is a word or a number. -/
theorem readValue_scalar {c : Char} (hc : c ≠ '"' ∧ c ≠ '\x7b' ∧ c ≠ '[') (fuel depth pos : Nat)
    (more : List Char) :
    readValue (fuel + 1) depth pos (c :: more) = readScalar pos (c :: more) := by
  rw [readValue.eq_def]
  simp [hc]

/-! ### Blanks -/

/-- Blanks are passed over. -/
theorem skipSpace_append {blanks : List Char} (hblanks : ∀ c ∈ blanks, isSpace c = true) {c : Char}
    (hc : isSpace c = false) (pos : Nat) (more : List Char) :
    skipSpace pos (blanks ++ c :: more) = (pos + blanks.length, c :: more) := by
  unfold skipSpace
  rw [List.takeWhile_append_of_pos hblanks, List.dropWhile_append_of_pos hblanks,
    List.takeWhile_cons_of_neg (by rw [hc]; decide), List.append_nil,
    List.dropWhile_cons_of_neg (by rw [hc]; decide)]

theorem isSpace_of_mem_newLine {level : Nat} {c : Char} (h : c ∈ (newLine level).toList) :
    isSpace c = true := by
  rw [toList_newLine] at h
  rcases List.mem_cons.1 h with rfl | h
  · decide
  · rw [List.eq_of_mem_replicate h]
    decide

theorem skipSpace_newLine (level : Nat) {c : Char} (hc : isSpace c = false) (pos : Nat)
    (more : List Char) :
    skipSpace pos ((newLine level).toList ++ c :: more) =
      (pos + (newLine level).toList.length, c :: more) :=
  skipSpace_append (fun _ h => isSpace_of_mem_newLine h) hc pos more

theorem skipSpace_cons {c : Char} (hc : isSpace c = false) (pos : Nat) (more : List Char) :
    skipSpace pos (c :: more) = (pos, c :: more) :=
  skipSpace_append (fun _ h => absurd h List.not_mem_nil) hc pos more

/-- What a value begins with tells it from the end of a list. -/
theorem exists_prettyAt_eq_cons {depth : Nat} {d : Datum} (h : Rereadable maxDigits depth d)
    (level : Nat) :
    ∃ c more, (prettyAt level d).toList = c :: more ∧ isSpace c = false ∧ c ≠ ']' ∧
      c ≠ '\uFEFF' := by
  cases h with
  | null =>
      refine ⟨'n', "ull".toList, ?_, by decide, by decide, by decide⟩
      rw [prettyAt_scalar (by simp) (by simp)]
      rfl
  | bool b =>
      rw [prettyAt_scalar (by simp) (by simp)]
      cases b with
      | true => exact ⟨'t', "rue".toList, rfl, by decide, by decide, by decide⟩
      | false => exact ⟨'f', "alse".toList, rfl, by decide, by decide, by decide⟩
  | @int _ i hi =>
      obtain ⟨c, more, htext, hc⟩ := exists_toString_int_eq_cons i
      refine ⟨c, more, (toList_prettyAt_int level i).trans htext, ?_, hc _ (by decide) (by decide),
        hc _ (by decide) (by decide)⟩
      have hspace := hc ' ' (by decide) (by decide)
      have hline := hc '\n' (by decide) (by decide)
      have htab := hc '\t' (by decide) (by decide)
      have hreturn := hc '\r' (by decide) (by decide)
      simp [isSpace, hspace, hline, htab, hreturn]
  | text s => exact ⟨'"', _, toList_prettyAt_text level s, by decide, by decide, by decide⟩
  | @list depth items hitems =>
      cases items with
      | nil =>
          rw [prettyAt_scalar (by simp) (by simp)]
          exact ⟨'[', [']'], rfl, by decide, by decide, by decide⟩
      | cons d more =>
          exact ⟨'[', _, toList_prettyAt_list level d more, by decide, by decide, by decide⟩
  | @object depth members hkeys hmembers =>
      cases members with
      | nil =>
          rw [prettyAt_scalar (by simp) (by simp)]
          exact ⟨'\x7b', ['\x7d'], rfl, by decide, by decide, by decide⟩
      | cons m more =>
          exact ⟨'\x7b', _, toList_prettyAt_object level m more, by decide, by decide, by decide⟩

theorem exists_itemsText_eq_cons {depth : Nat} {d : Datum} (h : Rereadable maxDigits depth d)
    (level : Nat) (more : List Datum) :
    ∃ c text, itemsText level (d :: more) = c :: text ∧ isSpace c = false ∧ c ≠ ']' := by
  obtain ⟨c, text, htext, hc, hend, -⟩ := exists_prettyAt_eq_cons h level
  cases more with
  | nil => exact ⟨c, text, by rw [itemsText_singleton, htext], hc, hend⟩
  | cons e more => exact ⟨c, _, by rw [itemsText_cons, htext, List.cons_append], hc, hend⟩

/-! ### Values -/

/-- With some fuel, whatever has been written and is not longer is read again. -/
structure Rereads (fuel : Nat) : Prop where
  value : ∀ {depth : Nat} {d : Datum}, Rereadable maxDigits depth d →
    ∀ (level pos : Nat) (rest : List Char), Closes rest →
      ((prettyAt level d).toList ++ rest).length ≤ fuel →
      Reads (readValue fuel depth pos ((prettyAt level d).toList ++ rest)) d rest
  items : ∀ {depth : Nat} {d : Datum} {more : List Datum},
    (∀ e ∈ d :: more, Rereadable maxDigits depth e) →
    ∀ (read : List Datum) (level outer pos : Nat) (rest : List Char),
      (itemsText level (d :: more) ++ ((newLine outer).toList ++ ']' :: rest)).length < fuel →
        Reads (readItems fuel depth read pos
          (itemsText level (d :: more) ++ ((newLine outer).toList ++ ']' :: rest)))
          (.list (read.reverse ++ d :: more)) rest
  members : ∀ {depth : Nat} {m : String × Datum} {more : List (String × Datum)},
    (∀ n ∈ m :: more, Rereadable maxDigits depth n.2) →
    ∀ (read : List (String × Datum)), (Entries.keys (read ++ m :: more)).Nodup →
    ∀ (level outer pos : Nat) (rest : List Char),
      (membersText level (m :: more) ++ ((newLine outer).toList ++ '\x7d' :: rest)).length < fuel →
        Reads (readMembers fuel depth read pos
          (membersText level (m :: more) ++ ((newLine outer).toList ++ '\x7d' :: rest)))
          (.object (read ++ m :: more)) rest

namespace Rereads

variable {fuel depth : Nat}

/-- The next value is read before the rest of the items. -/
theorem items_step (h : Rereads fuel) {d : Datum} {more : List Datum}
    (hitems : ∀ e ∈ d :: more, Rereadable maxDigits depth e) (read : List Datum)
    (level outer pos : Nat) (rest : List Char)
    (hfuel : (itemsText level (d :: more) ++
      ((newLine outer).toList ++ ']' :: rest)).length < fuel + 1) :
    Reads (readItems (fuel + 1) depth read pos
      (itemsText level (d :: more) ++ ((newLine outer).toList ++ ']' :: rest)))
      (.list (read.reverse ++ d :: more)) rest := by
  have hd := hitems d (List.mem_cons_self ..)
  rw [readItems]
  cases more with
  | nil =>
      rw [itemsText_singleton] at hfuel ⊢
      obtain ⟨p, hvalue⟩ := h.value hd level pos _ (closes_newLine outer (']' :: rest)) (by omega)
      rw [hvalue]
      simp only [bind, Except.bind, skipSpace_newLine outer (show isSpace ']' = false by decide)]
      exact ⟨_, by rw [List.reverse_cons]⟩
  | cons e more =>
      obtain ⟨c, text, htext, hc, -⟩ := exists_itemsText_eq_cons (hitems e (by simp)) level more
      have hrest := h.items (fun n hn => hitems n (List.mem_cons_of_mem _ hn)) (d :: read) level
        outer
      rw [itemsText_cons] at hfuel ⊢
      simp only [List.append_assoc, List.cons_append, List.length_append, List.length_cons]
        at hfuel hrest ⊢
      obtain ⟨p, hvalue⟩ := h.value hd level pos _ (closes_comma ((newLine level).toList ++
        (itemsText level (e :: more) ++ ((newLine outer).toList ++ ']' :: rest))))
        (by simp only [List.length_append, List.length_cons]; omega)
      rw [hvalue]
      simp only [bind, Except.bind, skipSpace_cons (show isSpace ',' = false by decide)]
      rw [htext, List.cons_append, skipSpace_newLine level hc, ← List.cons_append, ← htext]
      obtain ⟨q, hend⟩ := hrest _ rest (by omega)
      exact ⟨q, by rw [hend, List.reverse_cons, List.append_assoc]; rfl⟩

/-- What is left to do when a member has been read. -/
def afterMember (fuel depth : Nat) (members : List (String × Datum)) : Reader Datum :=
  fun pos rest =>
    let (pos, rest) := skipSpace pos rest
    match rest with
    | '\x7d' :: rest => .ok (.object members, pos + 1, rest)
    | ',' :: rest =>
      let (pos, rest) := skipSpace (pos + 1) rest
      readMembers fuel depth members pos rest
    | _ => .error (.malformed .expectedComma pos)

/-- The next member is read before the rest of them. -/
theorem member (h : Rereads fuel) {m : String × Datum} (hm : Rereadable maxDigits depth m.2)
    (read : List (String × Datum)) (level pos : Nat) {rest : List Char} (hrest : Closes rest)
    (hfuel : (membersText level [m] ++ rest).length ≤ fuel) :
    ∃ p, readMembers (fuel + 1) depth read pos (membersText level [m] ++ rest) =
      afterMember fuel depth (Entries.put m.1 m.2 read) p rest := by
  obtain ⟨c, text, htext, hc, -⟩ := exists_prettyAt_eq_cons hm level
  rw [membersText_singleton] at hfuel ⊢
  simp only [List.append_assoc, List.cons_append, List.length_append, List.length_cons]
    at hfuel ⊢
  obtain ⟨p, hname⟩ := readText_quoted m.1 pos (pos + 1)
    (':' :: ' ' :: ((prettyAt level m.2).toList ++ rest))
  have hblank : skipSpace (p + 1) (' ' :: ((prettyAt level m.2).toList ++ rest)) =
      (p + 2, (prettyAt level m.2).toList ++ rest) := by
    rw [htext, List.cons_append]
    exact skipSpace_append (show ∀ c ∈ [' '], isSpace c = true by simp [isSpace]) hc (p + 1)
      (text ++ rest)
  obtain ⟨q, hvalue⟩ := h.value hm level (p + 2) rest hrest
    (by rw [List.length_append]; omega)
  refine ⟨q, ?_⟩
  rw [readMembers, hname]
  simp only [bind, Except.bind, skipSpace_cons (show isSpace ':' = false by decide), hblank, hvalue]
  rfl

theorem members_step (h : Rereads fuel) {m : String × Datum} {more : List (String × Datum)}
    (hmembers : ∀ n ∈ m :: more, Rereadable maxDigits depth n.2) (read : List (String × Datum))
    (hkeys : (Entries.keys (read ++ m :: more)).Nodup) (level outer pos : Nat) (rest : List Char)
    (hfuel : (membersText level (m :: more) ++
      ((newLine outer).toList ++ '\x7d' :: rest)).length < fuel + 1) :
    Reads (readMembers (fuel + 1) depth read pos
      (membersText level (m :: more) ++ ((newLine outer).toList ++ '\x7d' :: rest)))
      (.object (read ++ m :: more)) rest := by
  have hm := hmembers m (List.mem_cons_self ..)
  have hnew : m.1 ∉ Entries.keys read := by
    intro hmem
    rw [Entries.keys, List.map_append] at hkeys
    exact (List.nodup_append.1 hkeys).2.2 _ hmem _ (List.mem_cons_self ..) rfl
  cases more with
  | nil =>
      obtain ⟨p, hmember⟩ := h.member hm read level pos
        (closes_newLine outer ('\x7d' :: rest)) (by omega)
      rw [hmember, Entries.put_of_not_mem _ hnew]
      unfold afterMember
      rw [skipSpace_newLine outer (by decide)]
      exact ⟨_, rfl⟩
  | cons n more =>
      have hmore := h.members (fun n hn => hmembers n (List.mem_cons_of_mem _ hn)) (read ++ [m])
        (by simpa using hkeys) level outer
      obtain ⟨text, htext⟩ := exists_membersText_eq_cons level n more
      rw [membersText_cons] at hfuel ⊢
      simp only [List.append_assoc, List.cons_append, List.length_append, List.length_cons]
        at hfuel hmore ⊢
      obtain ⟨p, hmember⟩ := h.member hm read level pos (closes_comma ((newLine level).toList ++
        (membersText level (n :: more) ++ ((newLine outer).toList ++ '\x7d' :: rest))))
        (by simp only [List.length_append, List.length_cons]; omega)
      rw [hmember, Entries.put_of_not_mem _ hnew]
      unfold afterMember
      rw [skipSpace_cons (by decide)]
      simp only []
      rw [htext, List.cons_append, skipSpace_newLine level (by decide), ← List.cons_append, ← htext]
      obtain ⟨q, hend⟩ := hmore _ rest (by omega)
      exact ⟨q, hend⟩

/-- A text between quotes is read. -/
theorem readValue_text (s : String) (fuel depth pos : Nat) (rest : List Char) :
    Reads (readValue (fuel + 1) depth pos ('"' :: (s.toList.flatMap escapeChar ++ '"' :: rest)))
      (.text s) rest := by
  obtain ⟨p, htext⟩ := readText_quoted s pos (pos + 1) rest
  refine ⟨p, ?_⟩
  rw [readValue, htext]
  rfl

theorem value_step (h : Rereads fuel) {d : Datum} (hd : Rereadable maxDigits depth d)
    (level pos : Nat) (rest : List Char) (hrest : Closes rest)
    (hfuel : ((prettyAt level d).toList ++ rest).length ≤ fuel + 1) :
    Reads (readValue (fuel + 1) depth pos ((prettyAt level d).toList ++ rest)) d rest := by
  cases hd with
  | null =>
      rw [prettyAt_scalar (by simp) (by simp)]
      exact ⟨pos + 4, by rw [readValue.eq_def]; rfl⟩
  | bool b =>
      rw [prettyAt_scalar (by simp) (by simp)]
      cases b with
      | true => exact ⟨pos + 4, by rw [readValue.eq_def]; rfl⟩
      | false => exact ⟨pos + 5, by rw [readValue.eq_def]; rfl⟩
  | @int _ i hi =>
      have hscalar := readScalar_int hi hrest pos
      obtain ⟨c, more, htext, hc⟩ := exists_toString_int_eq_cons i
      have hplain : c ≠ '"' ∧ c ≠ '\x7b' ∧ c ≠ '[' :=
        ⟨hc _ (by decide) (by decide), hc _ (by decide) (by decide), hc _ (by decide) (by decide)⟩
      rw [toList_prettyAt_int, htext, List.cons_append, readValue_scalar hplain]
      rwa [htext] at hscalar
  | text s =>
      rw [toList_prettyAt_text, List.cons_append, List.append_assoc]
      exact readValue_text s fuel depth pos rest
  | @list depth items hitems =>
      cases items with
      | nil =>
          rw [prettyAt_scalar (by simp) (by simp)]
          exact ⟨pos + 2, by rw [readValue.eq_def]; rfl⟩
      | cons d more =>
          obtain ⟨c, text, htext, hc, hend⟩ := exists_itemsText_eq_cons
            (hitems d (List.mem_cons_self ..)) (level + 1) more
          have hread := h.items hitems [] (level + 1) level
          have hline := one_le_length_newLine (level + 1)
          rw [toList_prettyAt_list] at hfuel ⊢
          simp only [List.append_assoc, List.cons_append, List.length_append, List.length_cons,
            List.nil_append] at hfuel hread ⊢
          rw [readValue, htext, List.cons_append, skipSpace_newLine (level + 1) hc]
          dsimp only
          split
          · rename_i heq
            exact absurd (List.cons.inj heq).1 hend
          · rw [← List.cons_append, ← htext]
            exact hread _ rest (by omega)
  | @object depth members hkeys hmembers =>
      cases members with
      | nil =>
          rw [prettyAt_scalar (by simp) (by simp)]
          exact ⟨pos + 2, by rw [readValue.eq_def]; rfl⟩
      | cons m more =>
          obtain ⟨text, htext⟩ := exists_membersText_eq_cons (level + 1) m more
          have hread := h.members hmembers [] hkeys (level + 1) level
          have hline := one_le_length_newLine (level + 1)
          rw [toList_prettyAt_object] at hfuel ⊢
          simp only [List.append_assoc, List.cons_append, List.length_append, List.length_cons,
            List.nil_append] at hfuel hread ⊢
          rw [readValue, htext, List.cons_append, skipSpace_newLine (level + 1) (by decide)]
          dsimp only
          split
          · rename_i heq
            exact absurd (List.cons.inj heq).1 (by decide)
          · rw [← List.cons_append, ← htext]
            exact hread _ rest (by omega)

end Rereads

/-! ### Documents -/

/-- However much fuel there is, what is not longer is read again. -/
theorem rereads (fuel : Nat) : Rereads fuel := by
  induction fuel with
  | zero =>
      refine ⟨fun hd level pos rest _ hfuel => ?_, fun _ _ _ _ _ _ hfuel => ?_,
        fun _ _ _ _ _ _ _ hfuel => ?_⟩
      · obtain ⟨c, more, htext, -⟩ := exists_prettyAt_eq_cons hd level
        rw [htext] at hfuel
        simp at hfuel
      · omega
      · omega
  | succ fuel ih => exact ⟨ih.value_step, ih.items_step, ih.members_step⟩

/-- No mark of the byte order stands before a value. -/
theorem parse_of_head {source : String} (h : source.toList.head? ≠ some '\uFEFF') :
    parse source = (do
      let (pos, rest) := skipSpace 0 source.toList
      let (d, pos, rest) ← readValue (2 * source.toList.length + 2) maxDepth pos rest
      let (pos, rest) := skipSpace pos rest
      if rest.isEmpty then .ok d else .error (.malformed .extraData pos)) := by
  unfold parse
  split
  · rename_i heq
    rw [heq] at h
    exact absurd rfl h
  · rfl

/-- **A document that is written is read again.** -/
theorem parse_pretty {d : Datum} (h : Rereadable maxDigits maxDepth d) :
    parse d.pretty = .ok d := by
  obtain ⟨c, more, htext, hc, -, hmark⟩ := exists_prettyAt_eq_cons h 0
  have hlist : d.pretty.toList = c :: more := htext
  have hread := (rereads (2 * d.pretty.toList.length + 2)).value h 0 0 [] closes_nil
    (by rw [List.append_nil]; show d.pretty.toList.length ≤ _; omega)
  rw [List.append_nil] at hread
  obtain ⟨p, hread⟩ : Reads (readValue (2 * d.pretty.toList.length + 2) maxDepth 0 d.pretty.toList)
    d [] := hread
  rw [parse_of_head]
  · rw [hlist, skipSpace_cons hc, ← hlist]
    dsimp only
    rw [hread]
    rfl
  · rw [hlist]
    exact fun heq => hmark (Option.some.inj heq)

end DartScaffold.Datum
