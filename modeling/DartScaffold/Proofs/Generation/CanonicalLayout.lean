/-
**The layout of code is canonical.**

A text has lines with something visible on them, and blank ones in between, which may hold blanks.
The layout of code keeps the visible lines and leaves out the blanks at their ends, and it keeps of
the blank lines only whether there was one between two visible lines.  That says everything about
the text that is written: no other text has the visible lines of the code, gaps of one line at most
where the code has gaps, nothing in front of them and one line feed behind them.  So code that is in
its layout is left alone, and this holds of every file that is generated, since laying it out is the
last step of generating it.

Main definitions:

* `Dart.rows`, `Dart.visibleRows` — the lines of a text, and those with something visible on them;
* `Dart.rowGaps` — how many blank lines stand in front of each visible one;
* `Dart.IsLayout` — a text is the layout of another one.

Main results:

* `Dart.visibleRows_tidy`, `Dart.tail_rowGaps_tidy` — what becomes of visible lines and of gaps;
* `Dart.exists_eq_rebuild` — lines without blanks at their ends are known by the visible ones and
  the gaps, up to blank ones at the end;
* `Dart.isLayout_iff`, `Dart.tidy_tidy` — **there is one layout**, and it is its own layout;
* `Dart.Generator.map_tidy_generateFile` — **generated files are in their layout**.
-/

import Mathlib
import DartScaffold.Dart.Generator
import DartScaffold.Proofs.Text.Lines

set_option relaxedAutoImplicit false
set_option autoImplicit false

namespace DartScaffold.Dart

open Text (isBlank trimEnd)

/-! ### Visible lines and gaps -/

/-- The lines of a text, the one behind the last line feed included. -/
def rows (s : String) : List (List Char) := s.toList.splitOn '\n'

/-- There is something visible on a line. -/
def isVisible (row : List Char) : Bool := row.any fun c => !isBlank c

/-- The lines of a text with something visible on them. -/
def visibleRows (s : String) : List (List Char) := (rows s).filter isVisible

/-- How many blank lines stand in front of each visible one, if there were some before. -/
def gapsAfter : (before : Nat) → List (List Char) → List Nat
  | _, [] => []
  | before, row :: rest =>
    if isVisible row then before :: gapsAfter 0 rest else gapsAfter (before + 1) rest

/-- How many blank lines stand in front of each visible line of a text. -/
def rowGaps (s : String) : List Nat := gapsAfter 0 (rows s)

/-- There is no line feed on a line. -/
theorem not_break_of_mem_rows {s : String} {row : List Char} (h : row ∈ rows s) : '\n' ∉ row :=
  fun hbreak => absurd (Naming.not_of_mem_splitOnP h '\n' hbreak) (by decide)

theorem isVisible_nil : isVisible [] = false := rfl

/-- A blank line is trimmed to nothing, and no other line is. -/
theorem isEmpty_trimEnd (row : List Char) : (trimEnd isBlank row).isEmpty = !isVisible row := by
  rw [Bool.eq_iff_iff, List.isEmpty_iff, Text.trimEnd_eq_nil_iff]
  simp [isVisible]

theorem trimEnd_trimEnd (p : Char → Bool) (cs : List Char) :
    trimEnd p (trimEnd p cs) = trimEnd p cs := by
  rw [trimEnd, trimEnd, List.reverse_reverse, List.dropWhile_idempotent]

/-- Trimming leaves what is visible. -/
theorem isVisible_trimEnd (row : List Char) : isVisible (trimEnd isBlank row) = isVisible row := by
  rw [← Bool.not_inj_iff, ← isEmpty_trimEnd, ← isEmpty_trimEnd, trimEnd_trimEnd]

theorem trimEnd_eq_nil {row : List Char} (h : isVisible row = false) :
    trimEnd isBlank row = [] := by
  rw [← List.isEmpty_iff, isEmpty_trimEnd, h]
  rfl

/-- Blank lines at the end stand in front of none. -/
theorem gapsAfter_append_replicate (before : Nat) (lines : List (List Char)) (n : Nat) :
    gapsAfter before (lines ++ List.replicate n []) = gapsAfter before lines := by
  induction lines generalizing before with
  | nil =>
      induction n generalizing before with
      | zero => rfl
      | succ n ih => exact ih (before + 1)
  | cons row rest ih =>
      rw [List.cons_append, gapsAfter, gapsAfter, ih, ih]

theorem filter_append_replicate (lines : List (List Char)) (n : Nat) :
    (lines ++ List.replicate n []).filter isVisible = lines.filter isVisible := by
  rw [List.filter_append, List.filter_replicate, isVisible_nil]
  exact List.append_nil _

/-! ### What the layout keeps -/

/-- One line of a text in its layout. -/
theorem tidyLines_cons (afterBlank : Bool) (row : List Char) (rest : List (List Char)) :
    tidyLines afterBlank (row :: rest) =
      if isVisible row then trimEnd isBlank row :: tidyLines false rest
      else if afterBlank then tidyLines true rest else [] :: tidyLines true rest := by
  rw [tidyLines, isEmpty_trimEnd]
  cases isVisible row <;> rfl

/-- The visible lines are kept, without the blanks at their ends. -/
theorem filter_isVisible_tidyLines (afterBlank : Bool) (lines : List (List Char)) :
    (tidyLines afterBlank lines).filter isVisible =
      (lines.filter isVisible).map (trimEnd isBlank) := by
  induction lines generalizing afterBlank with
  | nil => rfl
  | cons row rest ih =>
      rw [tidyLines_cons]
      cases h : isVisible row with
      | true =>
          rw [if_pos rfl, List.filter_cons_of_pos (by rw [isVisible_trimEnd, h]),
            List.filter_cons_of_pos h, List.map_cons, ih]
      | false =>
          rw [List.filter_cons_of_neg (by rw [h]; decide), ← ih true]
          cases afterBlank <;> rfl

/-- Behind a visible line, a gap is narrowed to one line.  The gap that is read and the one that is
written are counted side by side: one line was written if any was read. -/
theorem gapsAfter_tidyLines (before : Nat) (lines : List (List Char)) :
    gapsAfter (min 1 before) (tidyLines (decide (0 < before)) lines) =
      (gapsAfter before lines).map (min 1) := by
  induction lines generalizing before with
  | nil => rfl
  | cons row rest ih =>
      rw [tidyLines_cons, gapsAfter]
      cases h : isVisible row with
      | true =>
          rw [if_pos rfl, if_pos rfl, gapsAfter, isVisible_trimEnd, h, if_pos rfl, List.map_cons]
          exact congrArg _ (ih 0)
      | false =>
          have hrest := ih (before + 1)
          rw [decide_eq_true (Nat.succ_pos before)] at hrest
          rw [if_neg Bool.false_ne_true, if_neg Bool.false_ne_true, ← hrest]
          cases before with
          | zero => rfl
          | succ n =>
              rw [Nat.min_eq_left (Nat.le_add_left 1 n), Nat.min_eq_left (Nat.le_add_left 1 _)]
              rfl

/-- In front of the first visible line there is no gap, and the others are narrowed. -/
theorem gapsAfter_tidyLines_begin (before : Nat) (lines : List (List Char)) :
    (∀ n ∈ (gapsAfter 0 (tidyLines true lines)).head?, n = 0) ∧
      (gapsAfter 0 (tidyLines true lines)).tail = (gapsAfter before lines).tail.map (min 1) := by
  induction lines generalizing before with
  | nil => exact ⟨by simp [tidyLines, gapsAfter], rfl⟩
  | cons row rest ih =>
      rw [tidyLines_cons, gapsAfter]
      cases h : isVisible row with
      | true =>
          rw [if_pos rfl, if_pos rfl, gapsAfter, isVisible_trimEnd, h, if_pos rfl]
          exact ⟨fun n hn => (Option.mem_some_iff.1 hn).symm, gapsAfter_tidyLines 0 rest⟩
      | false => exact ih (before + 1)

/-- Each line is written without blanks at its end. -/
theorem trimEnd_of_mem_tidyLines {afterBlank : Bool} {lines : List (List Char)} {row : List Char}
    (h : row ∈ tidyLines afterBlank lines) : trimEnd isBlank row = row := by
  induction lines generalizing afterBlank with
  | nil => cases h
  | cons line rest ih =>
      rw [tidyLines_cons] at h
      split_ifs at h
      · rcases List.mem_cons.1 h with rfl | h
        · exact trimEnd_trimEnd ..
        · exact ih h
      · exact ih h
      · rcases List.mem_cons.1 h with rfl | h
        · rfl
        · exact ih h

/-- Only blank lines at the end are dropped. -/
theorem exists_dropBlankEnd_append (lines : List (List Char)) :
    ∃ n, lines = dropBlankEnd lines ++ List.replicate n [] := by
  obtain ⟨n, hn⟩ : ∃ n, lines.reverse.takeWhile List.isEmpty = List.replicate n [] :=
    ⟨_, List.eq_replicate_of_mem fun row hrow =>
      List.isEmpty_iff.1 (List.mem_takeWhile_imp (p := List.isEmpty) hrow)⟩
  refine ⟨n, ?_⟩
  calc lines = (lines.reverse.takeWhile List.isEmpty ++
          lines.reverse.dropWhile List.isEmpty).reverse := by
        rw [List.takeWhile_append_dropWhile, List.reverse_reverse]
    _ = dropBlankEnd lines ++ List.replicate n [] := by
        rw [List.reverse_append, hn, List.reverse_replicate, dropBlankEnd]

theorem dropBlankEnd_append_replicate (lines : List (List Char)) (n : Nat) :
    dropBlankEnd (lines ++ List.replicate n []) = dropBlankEnd lines := by
  induction n with
  | zero => rw [List.replicate_zero, List.append_nil]
  | succ n ih =>
      rw [List.replicate_succ', ← List.append_assoc, dropBlankEnd, List.reverse_append]
      exact ih

/-- What is left does not end in a blank line. -/
theorem getLast?_dropBlankEnd (lines : List (List Char)) :
    (dropBlankEnd lines).getLast? ≠ some [] := by
  intro hblank
  rw [dropBlankEnd, List.getLast?_reverse] at hblank
  have hkept := List.head?_dropWhile_not List.isEmpty lines.reverse
  rw [hblank] at hkept
  cases hkept

theorem dropBlankEnd_eq_self {lines : List (List Char)} (h : lines.getLast? ≠ some []) :
    dropBlankEnd lines = lines := by
  obtain ⟨n, hn⟩ := exists_dropBlankEnd_append lines
  cases n with
  | zero => rw [List.replicate_zero, List.append_nil] at hn; exact hn.symm
  | succ n =>
      rw [List.replicate_succ', ← List.append_assoc] at hn
      rw [hn, List.getLast?_concat] at h
      exact absurd rfl h

/-- The lines of a text in its layout: there is one at least, and an empty one behind the last line
feed. -/
theorem rows_tidy (code : String) :
    rows (tidy code) = (if codeLines code = [] then [[]] else codeLines code) ++ [[]] := by
  have hkept : ∀ row ∈ codeLines code, '\n' ∉ row := by
    intro row hrow hbreak
    obtain ⟨n, hn⟩ := exists_dropBlankEnd_append (tidyLines true (rows code))
    obtain ⟨kept, last, hsub, hlines⟩ := exists_tidyLines_append true (rows code)
    have hmem : row ∈ tidyLines true (rows code) := hn ▸ List.mem_append_left _ hrow
    rw [← List.append_nil (rows code), hlines, tidyLines, List.append_nil] at hmem
    obtain ⟨line, hline, hsubset⟩ := hsub row hmem
    exact not_break_of_mem_rows hline (hsubset hbreak)
  by_cases hnone : codeLines code = []
  · rw [if_pos hnone, rows, tidy, hnone]
    decide
  · have htext : tidy code = Text.unlines ((codeLines code).map String.ofList) := by
      rw [tidy, Text.join_append_newline (by simpa using hnone)]
    rw [if_neg hnone, rows, htext, Text.splitOn_unlines, List.map_map]
    · exact congrArg (· ++ [[]]) ((List.map_congr_left fun _ _ => String.toList_ofList).trans
        (List.map_id _))
    · refine List.forall_mem_map.2 fun row hrow => ?_
      rw [Text.Unbroken, String.toList_ofList]
      exact hkept row hrow

/-- The lines of a text in its layout, up to blank ones at the end. -/
theorem exists_rows_tidy (code : String) :
    ∃ i j, rows (tidy code) = codeLines code ++ List.replicate i [] ∧
      tidyLines true (rows code) = codeLines code ++ List.replicate j [] := by
  obtain ⟨j, hj⟩ := exists_dropBlankEnd_append (tidyLines true (rows code))
  by_cases hnone : codeLines code = []
  · refine ⟨2, j, ?_, hj⟩
    rw [rows_tidy, if_pos hnone, hnone]
    rfl
  · refine ⟨1, j, ?_, hj⟩
    rw [rows_tidy, if_neg hnone]
    rfl

theorem trimEnd_of_mem_codeLines {code : String} {row : List Char} (h : row ∈ codeLines code) :
    trimEnd isBlank row = row := by
  obtain ⟨n, hn⟩ := exists_dropBlankEnd_append (tidyLines true (rows code))
  exact trimEnd_of_mem_tidyLines (hn ▸ List.mem_append_left _ h)

/-- The visible lines of a text in its layout. -/
theorem visibleRows_tidy (code : String) :
    visibleRows (tidy code) = (visibleRows code).map (trimEnd isBlank) := by
  obtain ⟨i, j, hi, hj⟩ := exists_rows_tidy code
  rw [visibleRows, hi, filter_append_replicate, ← filter_append_replicate (codeLines code) j, ← hj,
    filter_isVisible_tidyLines, visibleRows]

/-- The gaps of a text in its layout. -/
theorem rowGaps_tidy (code : String) :
    rowGaps (tidy code) = gapsAfter 0 (tidyLines true (rows code)) := by
  obtain ⟨i, j, hi, hj⟩ := exists_rows_tidy code
  rw [rowGaps, hi, gapsAfter_append_replicate, hj, gapsAfter_append_replicate]

/-- Between two visible lines there is one blank line if there was any. -/
theorem tail_rowGaps_tidy (code : String) :
    (rowGaps (tidy code)).tail = (rowGaps code).tail.map (min 1) := by
  rw [rowGaps_tidy, rowGaps]
  exact (gapsAfter_tidyLines_begin 0 (rows code)).2

/-! ### The layout -/

/-- A text is the layout of another one. -/
structure IsLayout (code text : String) : Prop where
  /-- Its visible lines are those of the code, without the blanks at their ends. -/
  visible : visibleRows text = (visibleRows code).map (trimEnd isBlank)
  /-- Between two of them there is one blank line if there was any, and none otherwise. -/
  between : (rowGaps text).tail = (rowGaps code).tail.map (min 1)
  /-- It does not begin with a blank line, unless it is a line feed. -/
  begins : text ≠ "\n" → ∀ row ∈ (rows text).head?, isVisible row = true
  /-- It is a line feed only, if there is nothing visible. -/
  blank : visibleRows code = [] → text = "\n"
  /-- No line has blanks at its end. -/
  trimmed : ∀ row ∈ rows text, trimEnd isBlank row = row
  /-- There is one line feed at its end. -/
  ends : ∃ body : String, text = body ++ "\n" ∧ body.toList.getLast? ≠ some '\n'

/-- A line in the layout has something visible on it, unless it is empty. -/
theorem isVisible_of_mem_codeLines {code : String} {row : List Char} (h : row ∈ codeLines code)
    (hne : row ≠ []) : isVisible row = true := by
  have htrim := trimEnd_of_mem_codeLines h
  rw [← Bool.not_eq_false]
  intro hblank
  exact hne (htrim.symm.trans (trimEnd_eq_nil hblank))

/-- The last line in the layout is not blank. -/
theorem codeLines_cases (code : String) : codeLines code = [] ∨
    ∃ before last, codeLines code = before ++ [last] ∧ isVisible last = true := by
  rcases List.eq_nil_or_concat (codeLines code) with hnone | ⟨before, last, hlast⟩
  · exact .inl hnone
  · rw [List.concat_eq_append] at hlast
    have hmem : last ∈ codeLines code := by
      rw [hlast]
      exact List.mem_append_right _ (List.mem_singleton_self _)
    refine .inr ⟨before, last, hlast, isVisible_of_mem_codeLines hmem ?_⟩
    rintro rfl
    refine getLast?_dropBlankEnd (tidyLines true (rows code)) ?_
    exact (congrArg List.getLast? hlast).trans List.getLast?_concat

/-- A text without visible lines is laid out as a line feed. -/
theorem tidy_eq_newline {code : String} (h : visibleRows code = []) : tidy code = "\n" := by
  rcases codeLines_cases code with hnone | ⟨before, last, hlast, hvisible⟩
  · rw [tidy, hnone]
    rfl
  · obtain ⟨i, j, hi, hj⟩ := exists_rows_tidy code
    have hmem : last ∈ visibleRows (tidy code) := by
      rw [visibleRows, hi, hlast, List.mem_filter]
      exact ⟨by simp, hvisible⟩
    rw [visibleRows_tidy, h] at hmem
    cases hmem

theorem isLayout_tidy (code : String) : IsLayout code (tidy code) where
  visible := visibleRows_tidy code
  between := tail_rowGaps_tidy code
  begins := by
    intro hne row hrow
    obtain ⟨i, j, hi, hj⟩ := exists_rows_tidy code
    cases hcode : codeLines code with
    | nil => exact absurd (by rw [tidy, hcode]; rfl) hne
    | cons first rest =>
        rw [hi, hcode] at hrow
        obtain rfl := Option.mem_some_iff.1 hrow
        refine isVisible_of_mem_codeLines (hcode ▸ List.mem_cons_self ..) fun hblank => ?_
        refine tidyLines_ne_blank (rows code) ?_
        rw [hj, hcode, hblank]
        rfl
  blank := tidy_eq_newline
  trimmed := by
    intro row hrow
    obtain ⟨i, j, hi, hj⟩ := exists_rows_tidy code
    rw [hi] at hrow
    rcases List.mem_append.1 hrow with hrow | hrow
    · exact trimEnd_of_mem_codeLines hrow
    · rw [List.eq_of_mem_replicate hrow]
      rfl
  ends := by
    refine ⟨Text.join "\n" ((codeLines code).map String.ofList), rfl, ?_⟩
    rcases codeLines_cases code with hnone | ⟨before, last, hlast, hvisible⟩
    · rw [hnone]
      decide
    · have hmem : last ∈ codeLines code := by simp [hlast]
      have htrim := trimEnd_of_mem_codeLines hmem
      have hne : last ≠ [] := by
        rintro rfl
        cases hvisible
      rw [hlast, List.map_append, List.map_singleton, Naming.join_concat, String.toList_append,
        String.toList_ofList, List.getLast?_append_of_ne_nil _ hne]
      intro hbreak
      rw [← htrim] at hbreak
      exact absurd (Text.getLast?_trimEnd _ _ _ hbreak) (by decide)

/-! ### There is one layout -/

/-- Lines from the visible ones and the gaps in front of them. -/
def rebuild (gaps : List Nat) (visible : List (List Char)) : List (List Char) :=
  (List.zipWith (fun n row => List.replicate n [] ++ [row]) gaps visible).flatten

/-- Lines without blanks at their ends are known by the visible ones and the gaps, up to blank ones
at the end. -/
theorem exists_eq_rebuild (before : Nat) {lines : List (List Char)}
    (h : ∀ row ∈ lines, trimEnd isBlank row = row) :
    ∃ n, List.replicate before [] ++ lines =
      rebuild (gapsAfter before lines) (lines.filter isVisible) ++ List.replicate n [] := by
  induction lines generalizing before with
  | nil => exact ⟨before, List.append_nil _⟩
  | cons row rest ih =>
      obtain ⟨hrow, hrest⟩ := List.forall_mem_cons.1 h
      cases hvisible : isVisible row with
      | true =>
          obtain ⟨n, hn⟩ := ih 0 hrest
          rw [List.replicate_zero, List.nil_append] at hn
          refine ⟨n, ?_⟩
          rw [gapsAfter, if_pos hvisible, List.filter_cons_of_pos hvisible, rebuild,
            List.zipWith_cons_cons, List.flatten_cons, ← rebuild, List.append_assoc, ← hn,
            List.append_assoc, List.singleton_append]
      | false =>
          obtain ⟨n, hn⟩ := ih (before + 1) hrest
          refine ⟨n, ?_⟩
          rw [gapsAfter, hvisible, if_neg Bool.false_ne_true,
            List.filter_cons_of_neg (by simp [hvisible]), ← hn, ← hrow, trimEnd_eq_nil hvisible,
            List.replicate_succ', List.append_assoc, List.singleton_append]

/-- An empty piece at the end is a separator at the end. -/
theorem intercalate_concat_nil (c : Char) {before : List (List Char)} (h : before ≠ []) :
    [c].intercalate (before ++ [[]]) = [c].intercalate before ++ [c] := by
  induction before with
  | nil => exact absurd rfl h
  | cons first rest ih =>
      cases rest with
      | nil => rw [List.singleton_append, List.intercalate_cons_cons, List.intercalate_singleton,
          List.intercalate_singleton, List.append_nil]
      | cons next rest =>
          rw [List.cons_append, List.cons_append, List.intercalate_cons_cons,
            List.intercalate_cons_cons, ← List.cons_append, ih (List.cons_ne_nil _ _)]
          simp only [List.append_assoc]

/-- A text that ends in one line feed has one blank line at its end. -/
theorem rows_of_ends {text body : String} (htext : text = body ++ "\n")
    (hbody : body.toList.getLast? ≠ some '\n') (hne : text ≠ "\n") :
    rows text = dropBlankEnd (rows text) ++ [[]] := by
  have hrows : rows text = rows body ++ [[]] := by
    rw [rows, htext, String.toList_append]
    exact List.splitOn_append_cons_self ..
  have hlast : (rows body).getLast? ≠ some [] := by
    intro hblank
    obtain ⟨before, hbefore⟩ := List.getLast?_eq_some_iff.1 hblank
    have hjoined : body.toList = ['\n'].intercalate (rows body) := (List.intercalate_splitOn _).symm
    rw [hbefore] at hjoined
    by_cases hnone : before = []
    · -- There is nothing in front of the line feed.
      rw [hnone, List.nil_append, List.intercalate_singleton, String.toList_eq_nil_iff] at hjoined
      rw [htext, hjoined] at hne
      exact hne rfl
    · rw [hjoined, intercalate_concat_nil _ hnone, List.getLast?_concat] at hbody
      exact hbody rfl
  rw [hrows, ← List.replicate_one, dropBlankEnd_append_replicate, dropBlankEnd_eq_self hlast]

namespace IsLayout

variable {code text other : String}

/-- A layout with something visible on it is more than a line feed. -/
theorem ne_newline (h : IsLayout code text) (hcode : visibleRows code ≠ []) : text ≠ "\n" := by
  rintro rfl
  have hnone : visibleRows "\n" = [] := by decide
  exact hcode (List.map_eq_nil_iff.1 (h.visible.symm.trans hnone))

/-- The gaps of a layout are those of the code, with none in front. -/
theorem rowGaps_eq (h : IsLayout code text) (hne : text ≠ "\n") :
    rowGaps text = 0 :: (rowGaps code).tail.map (min 1) := by
  have htail := h.between
  have hbegins := h.begins hne
  rw [rowGaps] at htail ⊢
  cases hrows : rows text with
  | nil => exact absurd hrows (List.splitOn_ne_nil _ _)
  | cons first rest =>
      rw [hrows] at htail hbegins
      rw [gapsAfter, if_pos (hbegins first rfl)] at htail ⊢
      exact congrArg _ htail

/-- The lines of a layout are known by the visible ones and the gaps of the code. -/
theorem rows_eq (h : IsLayout code text) (hne : text ≠ "\n") :
    rows text = dropBlankEnd (rebuild (0 :: (rowGaps code).tail.map (min 1))
      ((visibleRows code).map (trimEnd isBlank))) ++ [[]] := by
  obtain ⟨body, htext, hbody⟩ := h.ends
  obtain ⟨n, hn⟩ := exists_eq_rebuild 0 h.trimmed
  rw [rows_of_ends htext hbody hne, ← h.rowGaps_eq hne, ← h.visible]
  rw [List.replicate_zero, List.nil_append] at hn
  nth_rewrite 1 [hn]
  rw [dropBlankEnd_append_replicate]
  rfl

/-- Two layouts of a text are the same. -/
theorem unique (h : IsLayout code text) (hother : IsLayout code other) : text = other := by
  by_cases hcode : visibleRows code = []
  · rw [h.blank hcode, hother.blank hcode]
  · have hrows : rows text = rows other := by
      rw [h.rows_eq (h.ne_newline hcode), hother.rows_eq (hother.ne_newline hcode)]
    have hjoined := congrArg (List.intercalate ['\n']) hrows
    rw [rows, rows, List.intercalate_splitOn, List.intercalate_splitOn] at hjoined
    exact String.toList_inj.1 hjoined

/-- A layout is its own layout. -/
theorem self (h : IsLayout code text) : IsLayout text text where
  visible := by
    rw [h.visible, List.map_map]
    exact List.map_congr_left fun row _ => (trimEnd_trimEnd isBlank row).symm
  between := by
    rw [h.between, List.map_map]
    exact List.map_congr_left fun n _ => by simp
  begins := h.begins
  blank := fun hnone => h.blank (List.map_eq_nil_iff.1 (h.visible.symm.trans hnone))
  trimmed := h.trimmed
  ends := h.ends

end IsLayout

/-- **There is one layout of a text.** -/
theorem isLayout_iff (code text : String) : IsLayout code text ↔ text = tidy code :=
  ⟨fun h => h.unique (isLayout_tidy code), fun h => h ▸ isLayout_tidy code⟩

-- Blanks in front of a line stay, and the line of blanks counts as a blank one.
example : tidy "\n  a \t\n\n \nb\nc\n\n" = "  a\n\nb\nc\n" := by decide +kernel

/-- **Code in its layout is left alone.** -/
theorem tidy_tidy (code : String) : tidy (tidy code) = tidy code :=
  ((isLayout_tidy code).self.unique (isLayout_tidy _)).symm

/-! ### Generated files -/

namespace Generator

/-- **A generated file is in its layout**, whatever it is generated from. -/
theorem map_tidy_generateFile (g : Generator) (tree : FileTree) (m : Model) (a : Artifact) :
    (g.generateFile tree m a).text.map tidy = (g.generateFile tree m a).text := by
  rw [generateFile]
  cases a.warnings g.context m with
  | error f => rfl
  | ok warnings =>
      dsimp only
      cases a.scope (g.learn m).context m with
      | error f => rfl
      | ok scope =>
          dsimp only
          generalize ((g.learn m).library.fill tree _ scope).1 = filled
          cases filled with
          | error f => rfl
          | ok text => exact congrArg Except.ok (tidy_tidy text)

theorem map_tidy_generate (g : Generator) (tree : FileTree) (m : Model) (options : Datum) :
    (g.generate tree m options).text.map tidy = (g.generate tree m options).text := by
  rw [generate]
  cases Artifact.ofOptions g.component options with
  | error f => rfl
  | ok a => exact g.map_tidy_generateFile tree m a

end Generator

/-- **The layout of code is canonical**: the text that is written for some code is the only one with
its visible lines and its gaps in the layout, laying it out again changes nothing, and every file
that a generator makes is laid out. -/
theorem tidy_canonical :
    (∀ code text : String, IsLayout code text ↔ text = tidy code) ∧
      (∀ code : String, tidy (tidy code) = tidy code) ∧
      (∀ (g : Generator) (tree : FileTree) (m : Model) (a : Artifact),
        (g.generateFile tree m a).text.map tidy = (g.generateFile tree m a).text) ∧
      ∀ (g : Generator) (tree : FileTree) (m : Model) (options : Datum),
        (g.generate tree m options).text.map tidy = (g.generate tree m options).text :=
  ⟨isLayout_iff, tidy_tidy, Generator.map_tidy_generateFile, Generator.map_tidy_generate⟩

end DartScaffold.Dart
