/-
**Comments on lines of their own.**

Documentation stands on lines that begin with three slashes.  Where such lines are put in front of
others, the layout of the whole text is the layout of the rest with comments in between, as long as
each comment stands in front of something visible: a comment between two blank lines would keep them
apart, and one behind the last line would keep the blank lines in front of it.  Leaving out the
comments then leads back to the layout of the rest.

Main definitions:

* `Dart.isComment` — a line is a comment;
* `Dart.dropComments` — a text without its comments;
* `Dart.Documented` — lines, and the same lines with comments in front of visible ones.

Main results:

* `Dart.isComment_of_mem_commentLines` — documentation is made of comments;
* `Dart.Documented.filter_eq` — leaving out the comments leads back;
* `Dart.dropComments_tidy` — **it does so in a text that is laid out**;
* `Dart.dropComments_ne_tidy` — what is laid out from a text with comments still has them.
-/

import DartScaffold.Proofs.Generation.LayoutAround

set_option relaxedAutoImplicit false
set_option autoImplicit false

namespace DartScaffold.Dart

open Text (isBlank trimEnd)

/-! ### Comments -/

/-- What a comment begins with. -/
def slashes : List Char := ['/', '/', '/']

/-- The first visible characters of a line are those that a comment begins with. -/
def isComment (row : List Char) : Bool := slashes.isPrefixOf (row.dropWhile isBlank)

/-- A text without its comments. -/
def dropComments (text : String) : String :=
  Text.join "\n" (((rows text).filter fun row => !isComment row).map String.ofList)

theorem toList_dropComments (text : String) : (dropComments text).toList =
    List.intercalate ['\n'] ((rows text).filter fun row => !isComment row) := by
  rw [dropComments, Text.toList_join, List.map_map]
  exact congrArg _ ((List.map_congr_left fun _ _ => String.toList_ofList).trans (List.map_id _))

theorem isComment_iff (row : List Char) :
    isComment row = true ↔ slashes <+: row.dropWhile isBlank := List.isPrefixOf_iff_prefix

/-- The blanks in front of a line do not matter. -/
theorem isComment_append {blanks : List Char} (h : ∀ c ∈ blanks, isBlank c = true)
    (row : List Char) : isComment (blanks ++ row) = isComment row := by
  rw [isComment, List.dropWhile_append_of_pos h, ← isComment]

/-- Three slashes behind blanks. -/
theorem exists_of_isComment {row : List Char} (h : isComment row = true) :
    ∃ blanks more, (∀ c ∈ blanks, isBlank c = true) ∧ row = blanks ++ slashes ++ more := by
  obtain ⟨more, hmore⟩ := (isComment_iff row).1 h
  refine ⟨row.takeWhile isBlank, more, fun c hc => List.mem_takeWhile_imp hc, ?_⟩
  rw [List.append_assoc, hmore, List.takeWhile_append_dropWhile]

/-- A comment is visible. -/
theorem isVisible_of_isComment {row : List Char} (h : isComment row = true) :
    isVisible row = true := by
  obtain ⟨blanks, more, -, rfl⟩ := exists_of_isComment h
  exact List.any_eq_true.2 ⟨'/', by simp [slashes], by decide⟩

/-- The blanks at the end of a comment do not matter. -/
theorem isComment_trimEnd_of_isComment {row : List Char} (h : isComment row = true) :
    isComment (trimEnd isBlank row) = true := by
  obtain ⟨blanks, more, hblanks, rfl⟩ := exists_of_isComment h
  have hsplit : blanks ++ slashes ++ more = (blanks ++ ['/', '/']) ++ '/' :: more := by
    simp [slashes]
  rw [hsplit, trimEnd_append_cons (by decide), List.append_assoc, isComment_append hblanks]
  rfl

/-- The blanks at the end of a line do not matter. -/
theorem isComment_trimEnd (row : List Char) : isComment (trimEnd isBlank row) = isComment row := by
  rw [Bool.eq_iff_iff]
  refine ⟨fun h => ?_, isComment_trimEnd_of_isComment⟩
  obtain ⟨more, hmore⟩ := trimEnd_prefix isBlank row
  obtain ⟨blanks, rest, hblanks, hrest⟩ := exists_of_isComment h
  rw [← hmore, hrest, List.append_assoc, List.append_assoc, isComment_append hblanks]
  rfl

/-- Documentation is made of comments. -/
theorem isComment_of_mem_commentLines {width : Nat} {s l : String} (h : l ∈ commentLines width s) :
    isComment l.toList = true := by
  obtain ⟨line, -, rfl⟩ := List.mem_map.1 h
  have hspaces : ∀ c ∈ (Text.spaces width).toList, isBlank c = true := by
    intro c hc
    rw [Text.spaces, String.toList_ofList] at hc
    rw [List.eq_of_mem_replicate hc]
    decide
  rw [Text.stripEnd, String.toList_ofList, isComment_trimEnd, String.toList_append,
    String.toList_append, List.append_assoc, isComment_append hspaces]
  rfl

/-! ### Lines with comments in front of them -/

/-- Lines none of which is a comment, and the same lines with comments in front of visible ones. -/
inductive Documented : List (List Char) → List (List Char) → Prop
  | nil : Documented [] []
  | cons {row : List Char} {notes quiet loud : List (List Char)}
      (hnotes : ∀ note ∈ notes, isComment note = true)
      (hvisible : notes ≠ [] → isVisible row = true) (hrow : isComment row = false)
      (h : Documented quiet loud) : Documented (row :: quiet) (notes ++ row :: loud)

namespace Documented

variable {quiet loud more more' : List (List Char)}

/-- There need not be any comments. -/
theorem of_forall {lines : List (List Char)} (h : ∀ row ∈ lines, isComment row = false) :
    Documented lines lines := by
  induction lines with
  | nil => exact .nil
  | cons row rest ih =>
      obtain ⟨hrow, hrest⟩ := List.forall_mem_cons.1 h
      exact .cons (List.forall_mem_nil _) (absurd rfl) hrow (ih hrest)

theorem append (h : Documented quiet loud) (hmore : Documented more more') :
    Documented (quiet ++ more) (loud ++ more') := by
  induction h with
  | nil => exact hmore
  | cons hnotes hvisible hrow _ ih =>
      rw [List.cons_append, List.append_assoc, List.cons_append]
      exact .cons hnotes hvisible hrow ih

/-- **Leaving out the comments leads back.** -/
theorem filter_eq (h : Documented quiet loud) :
    loud.filter (fun row => !isComment row) = quiet := by
  induction h with
  | nil => rfl
  | @cons row notes quiet loud hnotes _ hrow _ ih =>
      have hnone : notes.filter (fun row => !isComment row) = [] :=
        List.filter_eq_nil_iff.2 fun note hnote => by simp [hnotes note hnote]
      rw [List.filter_append, hnone, List.nil_append, List.filter_cons_of_pos (by simp [hrow]), ih]

theorem eq_nil_iff (h : Documented quiet loud) : loud = [] ↔ quiet = [] := by
  cases h <;> simp

/-! ### Their layout -/

/-- Comments are not touched by the layout, apart from the blanks at their ends. -/
theorem tidyLines_append {notes : List (List Char)} (h : ∀ note ∈ notes, isComment note = true)
    (hne : notes ≠ []) (afterBlank : Bool) (rest : List (List Char)) :
    tidyLines afterBlank (notes ++ rest) =
      notes.map (trimEnd isBlank) ++ tidyLines false rest := by
  induction notes generalizing afterBlank with
  | nil => exact absurd rfl hne
  | cons note notes ih =>
      obtain ⟨hnote, hnotes⟩ := List.forall_mem_cons.1 h
      rw [List.cons_append, tidyLines_cons, if_pos (isVisible_of_isComment hnote), List.map_cons,
        List.cons_append]
      cases notes with
      | nil => rfl
      | cons next notes => rw [ih hnotes (List.cons_ne_nil _ _)]

theorem tidyLines (h : Documented quiet loud) (afterBlank : Bool) :
    Documented (tidyLines afterBlank quiet) (tidyLines afterBlank loud) := by
  induction h generalizing afterBlank with
  | nil => exact .nil
  | @cons row notes quiet loud hnotes hvisible hrow _ ih =>
      have htrimmed : isComment (trimEnd isBlank row) = false := by rwa [isComment_trimEnd]
      cases notes with
      | nil =>
          rw [List.nil_append, tidyLines_cons, tidyLines_cons]
          split_ifs with hrow'
          · exact .cons (List.forall_mem_nil _) (absurd rfl) htrimmed (ih false)
          · exact ih true
          · exact .cons (List.forall_mem_nil _) (absurd rfl) rfl (ih true)
      | cons note notes =>
          have hshown : isVisible row = true := hvisible (List.cons_ne_nil _ _)
          rw [tidyLines_append hnotes (List.cons_ne_nil _ _), tidyLines_cons, tidyLines_cons,
            if_pos hshown, if_pos hshown]
          refine .cons (fun l hl => ?_) (fun _ => ?_) htrimmed (ih false)
          · obtain ⟨n, hn, rfl⟩ := List.mem_map.1 hl
            exact isComment_trimEnd_of_isComment (hnotes n hn)
          · rwa [isVisible_trimEnd]

/-- A line stays, if it is not empty or another one stays behind it. -/
theorem dropBlankEnd_cons (row : List Char) (rest : List (List Char)) :
    dropBlankEnd (row :: rest) =
      if row = [] ∧ dropBlankEnd rest = [] then [] else row :: dropBlankEnd rest := by
  rw [Dart.dropBlankEnd, Dart.dropBlankEnd, List.reverse_cons, List.dropWhile_append]
  by_cases hrest : rest.reverse.dropWhile List.isEmpty = []
  · cases row <;> simp [hrest]
  · simp [hrest]

theorem dropBlankEnd (h : Documented quiet loud) :
    Documented (dropBlankEnd quiet) (dropBlankEnd loud) := by
  induction h with
  | nil => exact .nil
  | @cons row notes quiet loud hnotes hvisible hrow _ ih =>
      cases notes with
      | nil =>
          rw [List.nil_append, dropBlankEnd_cons, dropBlankEnd_cons]
          simp only [ih.eq_nil_iff]
          split_ifs
          · exact .nil
          · exact .cons (List.forall_mem_nil _) (absurd rfl) hrow ih
      | cons note notes =>
          have hne : row ≠ [] := by
            rintro rfl
            cases hvisible (List.cons_ne_nil _ _)
          rw [dropBlankEnd_append_cons hne, dropBlankEnd_cons, if_neg fun h => hne h.1]
          exact .cons hnotes hvisible hrow ih

end Documented

/-- **Leaving out the comments leads back in a text that is laid out.** -/
theorem dropComments_tidy {quiet loud : String} (h : Documented (rows quiet) (rows loud)) :
    dropComments (tidy loud) = tidy quiet := by
  have hcode : Documented (codeLines quiet) (codeLines loud) := (h.tidyLines true).dropBlankEnd
  have hkept : (rows (tidy loud)).filter (fun row => !isComment row) = rows (tidy quiet) := by
    rw [rows_tidy, rows_tidy, List.filter_append]
    simp only [hcode.eq_nil_iff]
    split_ifs
    · rfl
    · rw [hcode.filter_eq]
      rfl
  refine String.toList_injective ?_
  rw [toList_dropComments, hkept]
  exact List.intercalate_splitOn '\n'

/-- A text without its comments has none. -/
theorem isComment_of_mem_rows_dropComments {text : String} {row : List Char}
    (h : row ∈ rows (dropComments text)) : isComment row = false := by
  obtain ⟨kept, hkept⟩ : ∃ kept, (rows text).filter (fun row => !isComment row) = kept := ⟨_, rfl⟩
  have hmem : ∀ line ∈ kept, line ∈ rows text ∧ isComment line = false := by
    intro line hline
    obtain ⟨hline, hcomment⟩ := List.mem_filter.1 (hkept ▸ hline)
    exact ⟨hline, by simpa using hcomment⟩
  rw [rows, toList_dropComments, hkept] at h
  by_cases hnone : kept = []
  · rw [hnone] at h
    obtain rfl := List.mem_singleton.1 h
    rfl
  · have hunbroken : ∀ line ∈ kept, '\n' ∉ line := fun line hline =>
      not_break_of_mem_rows (hmem line hline).1
    have hsplit : (List.intercalate ['\n'] kept).splitOn '\n' = kept :=
      List.splitOn_intercalate '\n' hunbroken hnone
    exact (hmem row (hsplit ▸ h)).2

/-- The layout keeps comments, so a text that has one is not laid out as a text without them. -/
theorem dropComments_ne_tidy {code : String} {row : List Char} (hrow : row ∈ rows code)
    (h : isComment row = true) (text : String) : dropComments text ≠ tidy code := by
  intro heq
  have hvisible : trimEnd isBlank row ∈ visibleRows (tidy code) := by
    rw [visibleRows_tidy]
    exact List.mem_map_of_mem (List.mem_filter.2 ⟨hrow, isVisible_of_isComment h⟩)
  have hnone := isComment_of_mem_rows_dropComments (heq ▸ (List.mem_filter.1 hvisible).1)
  rw [isComment_trimEnd, h] at hnone
  cases hnone

end DartScaffold.Dart
