/-
**The layout around something visible.**

The layout of code looks at one line after the other.  If there is something visible at a place of
the code, the layout of what stands in front of it and of what stands behind it can be told apart:
the lines in front are laid out, and the beginning of the line at hand is kept as it is.  The end of
that line loses its blanks, and the lines behind it are laid out.  So a place of the code can be
found in the text that is written.

Main definitions:

* `Dart.layFront`, `Dart.layRest` — the layout of what stands in front of a place, and behind it.

Main results:

* `Dart.rows_unlines_append` — the lines of two texts, one behind the other;
* `Dart.tidy_around` — **the layout around something visible**;
* `Dart.layFront_append`, `Dart.exists_toList_layRest` — what stands on the same line is kept.
-/

import DartScaffold.Proofs.Generation.CanonicalLayout
import DartScaffold.Proofs.Naming.LosslessForms

set_option relaxedAutoImplicit false
set_option autoImplicit false

namespace DartScaffold.Dart

open Text (isBlank trimEnd unlines Unbroken)

/-! ### Lines of two texts -/

/-- What is on one line belongs to the first line of what follows it. -/
theorem rows_append_of_unbroken {w : String} (hw : Unbroken w) (t : String) :
    rows (w ++ t) = (rows t).modifyHead (w.toList ++ ·) := by
  rw [rows, rows, String.toList_append, List.splitOn_eq_splitOnP, List.splitOn_eq_splitOnP]
  refine Naming.splitOnP_append (fun c hc => ?_) _
  rw [beq_eq_false_iff_ne]
  rintro rfl
  exact hw hc

theorem rows_unlines_append {ls : List String} (h : ∀ l ∈ ls, Unbroken l) (t : String) :
    rows (unlines ls ++ t) = ls.map String.toList ++ rows t := by
  induction ls with
  | nil => rw [unlines, String.empty_append, List.map_nil, List.nil_append]
  | cons l ls ih =>
      obtain ⟨hl, hls⟩ := List.forall_mem_cons.1 h
      rw [List.map_cons, List.cons_append, ← ih hls, rows, rows, String.toList_append,
        Text.toList_unlines_cons, List.append_assoc, List.cons_append,
        List.splitOn_append_cons_self, List.splitOn_eq_singleton hl, String.toList_append]
      rfl

/-- The lines of a piece are among those of the whole, if a line feed is behind it. -/
theorem mem_rows_unlines {ls : List String} {l : String} {row : List Char} (hl : l ∈ ls)
    (hrow : row ∈ rows l) : row ∈ rows (unlines ls) := by
  obtain ⟨before, after, rfl⟩ := List.append_of_mem hl
  obtain ⟨pieces, -, hcut⟩ := Text.exists_splitOn_unlines_append before
  rw [rows, Text.unlines_append, hcut, Text.toList_unlines_cons, List.splitOn_append_cons_self]
  exact List.mem_append_right _ (List.mem_append_left _ hrow)

/-- A text is made of lines and of what stands behind the last line feed. -/
theorem exists_eq_unlines_append (s : String) :
    ∃ ls last, (∀ l ∈ ls, Unbroken l) ∧ Unbroken last ∧ s = unlines ls ++ last := by
  have hbreak : ∀ row ∈ rows s, '\n' ∉ row := fun row => not_break_of_mem_rows
  have hjoined : s.toList = ['\n'].intercalate (rows s) := (List.intercalate_splitOn _).symm
  generalize rows s = pieces at hbreak hjoined
  induction pieces generalizing s with
  | nil =>
      refine ⟨[], "", List.forall_mem_nil _, by decide, ?_⟩
      exact String.toList_injective hjoined
  | cons row rest ih =>
      obtain ⟨hrow, hrest⟩ := List.forall_mem_cons.1 hbreak
      have hline : Unbroken (String.ofList row) := by rwa [Unbroken, String.toList_ofList]
      cases rest with
      | nil =>
          refine ⟨[], String.ofList row, List.forall_mem_nil _, hline, ?_⟩
          rw [unlines, String.empty_append, ← String.ofList_toList (s := s), hjoined,
            List.intercalate_singleton]
      | cons next rest =>
          rw [List.intercalate_cons_cons, List.append_assoc] at hjoined
          obtain ⟨ls, last, hls, hlast, heq⟩ :=
            ih (String.ofList (['\n'].intercalate (next :: rest))) hrest String.toList_ofList
          refine ⟨String.ofList row :: ls, last, List.forall_mem_cons.2 ⟨hline, hls⟩, hlast, ?_⟩
          have hmore : ['\n'].intercalate (next :: rest) = (unlines ls).toList ++ last.toList := by
            rw [← String.toList_append, ← heq, String.toList_ofList]
          refine String.toList_injective ?_
          rw [hjoined, hmore, String.toList_append, Text.toList_unlines_cons, String.toList_ofList,
            List.append_assoc]
          rfl

/-! ### Laying out lines -/

/-- What is visible keeps what stands in front of it, when blanks or blank lines are dropped at the
end. -/
theorem reverse_dropWhile_append_cons {α : Type} {p : α → Bool} {x : α} (hx : p x = false)
    (xs ys : List α) :
    ((xs ++ x :: ys).reverse.dropWhile p).reverse =
      xs ++ x :: (ys.reverse.dropWhile p).reverse := by
  rw [List.reverse_append, List.reverse_cons, List.append_assoc, List.singleton_append,
    List.dropWhile_append]
  split_ifs with hnone
  · rw [List.isEmpty_iff.1 hnone, List.dropWhile_cons_of_neg (by simp [hx])]
    simp
  · simp

theorem trimEnd_prefix (p : Char → Bool) (cs : List Char) : trimEnd p cs <+: cs := by
  rw [← List.reverse_suffix, trimEnd, List.reverse_reverse]
  exact List.dropWhile_suffix p

theorem trimEnd_append_cons {c : Char} (hc : isBlank c = false) (before after : List Char) :
    trimEnd isBlank (before ++ c :: after) = before ++ c :: trimEnd isBlank after :=
  reverse_dropWhile_append_cons hc before after

theorem dropBlankEnd_append_cons {row : List Char} (hrow : row ≠ [])
    (before after : List (List Char)) :
    dropBlankEnd (before ++ row :: after) = before ++ row :: dropBlankEnd after :=
  reverse_dropWhile_append_cons (by simpa [List.isEmpty_iff] using hrow) before after

/-- The layout begins anew behind a visible line. -/
theorem tidyLines_append_cons {row : List Char} (hrow : isVisible row = true) (afterBlank : Bool)
    (before after : List (List Char)) :
    tidyLines afterBlank (before ++ row :: after) =
      tidyLines afterBlank before ++ trimEnd isBlank row :: tidyLines false after := by
  induction before generalizing afterBlank with
  | nil => rw [List.nil_append, tidyLines_cons, if_pos hrow, tidyLines, List.nil_append]
  | cons first before ih =>
      rw [List.cons_append, tidyLines_cons, tidyLines_cons, ih, ih]
      split_ifs <;> rfl

/-! ### The layout around a place -/

/-- The layout of what stands in front of something visible: the last line is kept as it is. -/
def layFront (s : String) : String :=
  unlines ((tidyLines true (rows s).dropLast).map String.ofList) ++
    String.ofList ((rows s).getLastD [])

/-- The layout of what stands behind something visible: the first line goes on with it. -/
def layRest (t : String) : String :=
  unlines ((trimEnd isBlank ((rows t).headD []) ::
    dropBlankEnd (tidyLines false (rows t).tail)).map String.ofList)

theorem layFront_unlines_append {ls : List String} {last : String} (h : ∀ l ∈ ls, Unbroken l)
    (hlast : Unbroken last) : layFront (unlines ls ++ last) =
      unlines ((tidyLines true (ls.map String.toList)).map String.ofList) ++ last := by
  have hrows : rows (unlines ls ++ last) = ls.map String.toList ++ [last.toList] := by
    rw [rows_unlines_append h, rows, List.splitOn_eq_singleton hlast]
  rw [layFront, hrows, List.dropLast_concat, List.getLastD_concat, String.ofList_toList]

/-- What stands on the same line in front of the place is kept. -/
theorem layFront_append (s : String) {w : String} (hw : Unbroken w) :
    layFront (s ++ w) = layFront s ++ w := by
  obtain ⟨ls, last, hls, hlast, rfl⟩ := exists_eq_unlines_append s
  rw [String.append_assoc, layFront_unlines_append hls (hlast.append hw),
    layFront_unlines_append hls hlast, String.append_assoc]

/-- Behind the place the line goes on, and a line feed ends it. -/
theorem exists_toList_layRest (t : String) : ∃ rest,
    (layRest t).toList = trimEnd isBlank ((rows t).headD []) ++ '\n' :: rest := by
  rw [layRest, List.map_cons, Text.toList_unlines_cons, String.toList_ofList]
  exact ⟨_, rfl⟩

theorem exists_rows_eq_cons (t : String) : ∃ row more, rows t = row :: more :=
  List.exists_cons_of_ne_nil (List.splitOn_ne_nil _ _)

/-- **The layout around something visible.** -/
theorem tidy_around {c : Char} (hc : isBlank c = false) (s t : String) :
    tidy (s ++ String.singleton c ++ t) = layFront s ++ String.singleton c ++ layRest t := by
  obtain ⟨ls, last, hls, hlast, rfl⟩ := exists_eq_unlines_append s
  obtain ⟨row, more, hrow⟩ := exists_rows_eq_cons t
  have hline : Unbroken (last ++ String.singleton c) := by
    refine hlast.append ?_
    rw [Unbroken, String.toList_singleton, List.mem_singleton]
    rintro rfl
    exact absurd hc (by decide)
  have hrows : rows (unlines ls ++ last ++ String.singleton c ++ t) =
      ls.map String.toList ++ (last.toList ++ c :: row) :: more := by
    have hsplit : unlines ls ++ last ++ String.singleton c ++ t =
        unlines ls ++ (last ++ String.singleton c ++ t) := by
      simp only [String.append_assoc]
    rw [hsplit, rows_unlines_append hls, rows_append_of_unbroken hline, hrow]
    simp
  have hvisible : isVisible (last.toList ++ c :: row) = true := by
    rw [isVisible, List.any_eq_true]
    exact ⟨c, by simp, by simp [hc]⟩
  have hcode : codeLines (unlines ls ++ last ++ String.singleton c ++ t) =
      tidyLines true (ls.map String.toList) ++ (last.toList ++ c :: trimEnd isBlank row) ::
        dropBlankEnd (tidyLines false more) := by
    rw [codeLines, ← rows, hrows, tidyLines_append_cons hvisible, trimEnd_append_cons hc,
      dropBlankEnd_append_cons (by simp)]
  rw [tidy, hcode, Text.join_append_newline (by simp), layFront_unlines_append hls hlast, layRest,
    hrow, List.headD_cons, List.tail_cons, List.map_append, Text.unlines_append]
  refine String.toList_injective ?_
  simp [unlines]

end DartScaffold.Dart
