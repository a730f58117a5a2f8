/-
**How a document is written.**

A document over several lines puts each item of a list and each member of an object on a line of
its own, indented by its level, with commas behind all but the last.  This module tells the
characters of such a text piece by piece, as a reader comes upon them, and what is not among them.

Main definitions:

* `Datum.itemsText`, `Datum.membersText` — what stands between the brackets;
* `Datum.Rereadable` — the documents that are written so that they can be read again.

Main results:

* `Datum.toList_prettyAt_list`, `Datum.toList_prettyAt_object` — the pieces of a value;
* `Datum.exists_toString_int_eq_cons` — what a whole number begins with;
* `Datum.not_mem_pretty` — a document is written without carriage returns.
-/

import Mathlib
import DartScaffold.Datum.Writer

set_option relaxedAutoImplicit false
set_option autoImplicit false

namespace DartScaffold.Datum

/-! ### Texts -/

/-- No character is left out. -/
theorem length_le_flatMap_escapeChar (cs : List Char) :
    cs.length ≤ (cs.flatMap escapeChar).length := by
  have hone : ∀ c, 1 ≤ (escapeChar c).length := by
    intro c
    unfold escapeChar
    split_ifs <;> simp
  induction cs with
  | nil => exact Nat.le_refl _
  | cons c cs ih =>
      have hc := hone c
      rw [List.flatMap_cons, List.length_append, List.length_cons]
      omega

theorem not_mem_escapeChar (c : Char) : '\r' ∉ escapeChar c := by
  have hdigits : ∀ n : Fin 32, '\r' ∉ Text.hexDigits 4 n := by decide +kernel
  unfold escapeChar
  split_ifs with hquoted _ hreturn _ _ _ hcontrol
  · rcases Bool.or_eq_true _ _ ▸ hquoted with hc | hc
    · rw [eq_of_beq hc]
      decide
    · rw [eq_of_beq hc]
      decide
  · decide
  · decide
  · decide
  · decide
  · decide
  · have hd := hdigits ⟨c.toNat, hcontrol⟩
    simpa using hd
  · rw [beq_iff_eq] at hreturn
    simpa using Ne.symm hreturn

theorem not_mem_flatMap_escapeChar (cs : List Char) : '\r' ∉ cs.flatMap escapeChar := by
  rw [List.mem_flatMap]
  rintro ⟨c, -, hc⟩
  exact not_mem_escapeChar c hc

/-! ### Whole numbers -/

/-- The digits of a number begin with a digit. -/
theorem exists_toDigits_eq_cons (n : Nat) :
    ∃ c cs, Nat.toDigits 10 n = c :: cs ∧ c.isDigit = true := by
  cases hds : Nat.toDigits 10 n with
  | nil => exact absurd hds Nat.toDigits_ne_nil
  | cons c cs =>
      have hmem : c ∈ Nat.toDigits 10 n := by
        rw [hds]
        exact List.mem_cons_self ..
      exact ⟨c, cs, rfl, Nat.isDigit_of_mem_toDigits (by omega) (by omega) hmem⟩

/-- The first digit of a number above zero is no zero. -/
theorem head?_toDigits_ne_zero {n : Nat} (hn : 0 < n) : (Nat.toDigits 10 n).head? ≠ some '0' := by
  induction n using Nat.strong_induction_on with
  | _ n ih =>
      rw [Nat.toDigits_eq_if (by omega)]
      by_cases hsmall : n < 10
      · have hdigit : ∀ d : Fin 10, 0 < d.val → d.val.digitChar ≠ '0' := by decide
        rw [if_pos hsmall]
        exact fun heq => hdigit ⟨n, hsmall⟩ hn (Option.some.inj heq)
      · rw [if_neg hsmall, List.head?_append_of_ne_nil _ Nat.toDigits_ne_nil]
        exact ih (n / 10) (by omega) (by omega)

/-- How a whole number is written. -/
theorem toList_toString_int (i : Int) :
    (toString i).toList =
      if 0 ≤ i then Nat.toDigits 10 i.natAbs else '-' :: Nat.toDigits 10 i.natAbs := by
  have hnat : ∀ n : Nat, (toString n).toList = Nat.toDigits 10 n := by
    intro n
    rw [Nat.toString_eq_ofList_toDigits, String.toList_ofList]
  cases i with
  | ofNat n =>
      have hsign : 0 ≤ Int.ofNat n := Int.natCast_nonneg n
      rw [if_pos hsign]
      exact hnat n
  | negSucc n =>
      rw [if_neg (by omega)]
      show ("-" ++ toString (n + 1)).toList = _
      rw [String.toList_append, hnat]
      rfl

/-- A whole number begins with a digit or a minus sign, so with none of the characters that set the
pieces of a document apart. -/
theorem exists_toString_int_eq_cons (i : Int) :
    ∃ c more, (toString i).toList = c :: more ∧
      ∀ w : Char, w.isDigit = false → w ≠ '-' → c ≠ w := by
  obtain ⟨c, cs, hds, hc⟩ := exists_toDigits_eq_cons i.natAbs
  rw [toList_toString_int, hds]
  by_cases hsign : 0 ≤ i
  · rw [if_pos hsign]
    refine ⟨c, cs, rfl, ?_⟩
    rintro w hw - rfl
    rw [hw] at hc
    cases hc
  · rw [if_neg hsign]
    exact ⟨'-', c :: cs, rfl, fun w _ hw heq => hw heq.symm⟩

theorem not_mem_toString_int (i : Int) : '\r' ∉ (toString i).toList := by
  have hdigits : '\r' ∉ Nat.toDigits 10 i.natAbs := by
    intro hmem
    exact absurd (Nat.isDigit_of_mem_toDigits (by omega) (by omega) hmem) (by decide)
  rw [toList_toString_int]
  split_ifs
  · exact hdigits
  · simpa using hdigits

/-! ### Lines -/

/-- A line break with its indentation. -/
theorem toList_newLine (level : Nat) :
    (newLine level).toList = '\n' :: List.replicate (2 * level) ' ' := by
  unfold newLine Text.spaces
  rw [String.toList_append, String.toList_ofList (l := List.replicate (2 * level) ' ')]
  rfl

theorem one_le_length_newLine (level : Nat) : 1 ≤ (newLine level).toList.length := by
  rw [toList_newLine, List.length_cons]
  omega

theorem not_mem_newLine (level : Nat) : '\r' ∉ (newLine level).toList := by
  rw [toList_newLine]
  simp

/-! ### Values -/

/-- What is neither a list nor an object with something in it stands on one line. -/
theorem prettyAt_scalar {d : Datum} (hlist : ∀ e more, d ≠ .list (e :: more))
    (hobject : ∀ m more, d ≠ .object (m :: more)) (level : Nat) :
    prettyAt level d = writeScalar escapeChar d := by
  rw [prettyAt]
  · exact hlist
  · exact hobject

theorem toList_prettyAt_int (level : Nat) (i : Int) :
    (prettyAt level (.int i)).toList = (toString i).toList := by
  rw [prettyAt_scalar (by simp) (by simp)]
  rfl

theorem toList_prettyAt_text (level : Nat) (s : String) :
    (prettyAt level (.text s)).toList = '"' :: (s.toList.flatMap escapeChar ++ ['"']) := by
  rw [prettyAt_scalar (by simp) (by simp)]
  show (writeText escapeChar s).toList = _
  unfold writeText
  rw [String.toList_ofList]

/-- The items of a list as they are written. -/
def itemsText (level : Nat) (items : List Datum) : List Char :=
  (Text.join ("," ++ newLine level) (prettyItems level items)).toList

/-- The members of an object as they are written. -/
def membersText (level : Nat) (members : List (String × Datum)) : List Char :=
  (Text.join ("," ++ newLine level) (prettyMembers level members)).toList

theorem itemsText_singleton (level : Nat) (d : Datum) :
    itemsText level [d] = (prettyAt level d).toList := by
  unfold itemsText
  rw [prettyItems, prettyItems, Text.join, String.intercalate_singleton]

theorem itemsText_cons (level : Nat) (d e : Datum) (more : List Datum) :
    itemsText level (d :: e :: more) = (prettyAt level d).toList ++
      ',' :: ((newLine level).toList ++ itemsText level (e :: more)) := by
  unfold itemsText
  rw [prettyItems, Text.toList_join, Text.toList_join, List.map_cons, prettyItems, List.map_cons,
    List.intercalate_cons_cons, String.toList_append]
  simp

/-- A member as it is written. -/
theorem membersText_singleton (level : Nat) (m : String × Datum) :
    membersText level [m] = '"' :: (m.1.toList.flatMap escapeChar ++
      '"' :: ':' :: ' ' :: (prettyAt level m.2).toList) := by
  obtain ⟨k, d⟩ := m
  unfold membersText
  rw [prettyMembers, prettyMembers, Text.join, String.intercalate_singleton]
  simp [writeText]

theorem membersText_cons (level : Nat) (m n : String × Datum) (more : List (String × Datum)) :
    membersText level (m :: n :: more) = membersText level [m] ++
      ',' :: ((newLine level).toList ++ membersText level (n :: more)) := by
  obtain ⟨k, d⟩ := m
  obtain ⟨l, e⟩ := n
  unfold membersText
  rw [prettyMembers, Text.toList_join, Text.toList_join, Text.toList_join, List.map_cons,
    prettyMembers, List.map_cons, List.intercalate_cons_cons, String.toList_append]
  simp [prettyMembers]

theorem exists_membersText_eq_cons (level : Nat) (m : String × Datum)
    (more : List (String × Datum)) : ∃ text, membersText level (m :: more) = '"' :: text := by
  cases more with
  | nil => exact ⟨_, membersText_singleton level m⟩
  | cons n more =>
      exact ⟨_, by rw [membersText_cons, membersText_singleton, List.cons_append]⟩

theorem toList_prettyAt_list (level : Nat) (d : Datum) (more : List Datum) :
    (prettyAt level (.list (d :: more))).toList =
      '[' :: ((newLine (level + 1)).toList ++ (itemsText (level + 1) (d :: more) ++
        ((newLine level).toList ++ [']']))) := by
  rw [prettyAt]
  simp only [String.toList_append, List.append_assoc]
  rfl

theorem toList_prettyAt_object (level : Nat) (m : String × Datum) (more : List (String × Datum)) :
    (prettyAt level (.object (m :: more))).toList =
      '\x7b' :: ((newLine (level + 1)).toList ++ (membersText (level + 1) (m :: more) ++
        ((newLine level).toList ++ ['\x7d']))) := by
  rw [prettyAt]
  simp only [String.toList_append, List.append_assoc]
  rfl

/-! ### Documents that can be read again -/

/-- Values that are written and can be read again, with numbers of so many digits and lists and
objects in them up to a depth. -/
inductive Rereadable (digits : Nat) : Nat → Datum → Prop
  | null {depth : Nat} : Rereadable digits depth .null
  | bool {depth : Nat} (b : Bool) : Rereadable digits depth (.bool b)
  | int {depth : Nat} {i : Int} (h : i.natAbs < 10 ^ digits) : Rereadable digits depth (.int i)
  | text {depth : Nat} (s : String) : Rereadable digits depth (.text s)
  | list {depth : Nat} {items : List Datum} (h : ∀ d ∈ items, Rereadable digits depth d) :
      Rereadable digits (depth + 1) (.list items)
  | object {depth : Nat} {members : List (String × Datum)}
      (hkeys : (Entries.keys members).Nodup) (h : ∀ m ∈ members, Rereadable digits depth m.2) :
      Rereadable digits (depth + 1) (.object members)

theorem not_mem_itemsText (level : Nat) {items : List Datum}
    (h : ∀ d ∈ items, '\r' ∉ (prettyAt level d).toList) : '\r' ∉ itemsText level items := by
  induction items with
  | nil => simp [itemsText, prettyItems, Text.join]
  | cons d more ih =>
      have hd := h d (List.mem_cons_self ..)
      have hmore := ih fun e he => h e (List.mem_cons_of_mem _ he)
      cases more with
      | nil => rwa [itemsText_singleton]
      | cons e more =>
          rw [itemsText_cons]
          simp [hd, hmore, not_mem_newLine]

theorem not_mem_membersText (level : Nat) {members : List (String × Datum)}
    (h : ∀ m ∈ members, '\r' ∉ (prettyAt level m.2).toList) :
    '\r' ∉ membersText level members := by
  induction members with
  | nil => simp [membersText, prettyMembers, Text.join]
  | cons m more ih =>
      have hm := h m (List.mem_cons_self ..)
      have hmore := ih fun n hn => h n (List.mem_cons_of_mem _ hn)
      have hone : '\r' ∉ membersText level [m] := by
        have hname := not_mem_flatMap_escapeChar m.1.toList
        rw [membersText_singleton]
        simp only [List.mem_cons, List.mem_append, hm, hname]
        decide
      cases more with
      | nil => exact hone
      | cons n more =>
          rw [membersText_cons]
          simp [hone, hmore, not_mem_newLine]

/-- A document is written without carriage returns, so that its line breaks stay as they are. -/
theorem not_mem_prettyAt {digits depth : Nat} {d : Datum} (h : Rereadable digits depth d)
    (level : Nat) : '\r' ∉ (prettyAt level d).toList := by
  induction h generalizing level with
  | null =>
      rw [prettyAt_scalar (by simp) (by simp)]
      decide
  | bool b =>
      rw [prettyAt_scalar (by simp) (by simp)]
      cases b <;> decide
  | @int _ i _ =>
      rw [toList_prettyAt_int]
      exact not_mem_toString_int i
  | text s =>
      have htext := not_mem_flatMap_escapeChar s.toList
      rw [toList_prettyAt_text]
      simp [htext]
  | @list _ items _ ih =>
      cases items with
      | nil =>
          rw [prettyAt_scalar (by simp) (by simp)]
          decide
      | cons d more =>
          have hitems := not_mem_itemsText (level + 1) fun e he => ih e he (level + 1)
          rw [toList_prettyAt_list]
          simp [hitems, not_mem_newLine]
  | @object _ members _ _ ih =>
      cases members with
      | nil =>
          rw [prettyAt_scalar (by simp) (by simp)]
          decide
      | cons m more =>
          have hmembers := not_mem_membersText (level + 1) fun n hn => ih n hn (level + 1)
          rw [toList_prettyAt_object]
          simp [hmembers, not_mem_newLine]

theorem not_mem_pretty {digits depth : Nat} {d : Datum} (h : Rereadable digits depth d) :
    '\r' ∉ d.pretty.toList :=
  not_mem_prettyAt h 0

end DartScaffold.Datum
