/-
**Lines of code.**

Code is put together line by line, and each line is ended by a line feed.  The layout of code leaves
lines alone that end in something visible, and single blank lines between them.  So code that is
made of such lines is written as it is, whatever stands in front of it; only a blank line at its
beginning is left out.

Main definitions:

* `Text.Unbroken` — a text on one line;
* `Text.unlines` — lines as a text;
* `Dart.IsSolid`, `Dart.IsLaid` — a line that is kept as it is, and lines that are;
* `Dart.commentLines` — the lines of a comment.

Main results:

* `Text.splitOn_unlines` — the lines of a text that is made of lines;
* `Dart.isSolid_append`, `Dart.isSolid_commentLines` — lines that are kept as they are;
* `Dart.tidy_unlines`, `Dart.tidy_unlines_blank`, `Dart.exists_tidy_append` — **lines in their
  layout are left alone**.
-/

import Mathlib
import DartScaffold.Dart.Layout
import DartScaffold.Proofs.Naming.Joined

set_option relaxedAutoImplicit false
set_option autoImplicit false

namespace DartScaffold

namespace Text

/-- A text on one line. -/
def Unbroken (s : String) : Prop := '\n' ∉ s.toList

instance (s : String) : Decidable (Unbroken s) := inferInstanceAs (Decidable ('\n' ∉ s.toList))

/-- A text that is spelled out.  Its characters are not decoded. -/
theorem Unbroken.of_chars {s : String} {cs : List Char} (hs : s = String.ofList cs)
    (h : cs.elem '\n' = false) : Unbroken s := by
  rw [Unbroken, hs, String.toList_ofList]
  intro hbreak
  rw [List.elem_eq_true_of_mem hbreak] at h
  cases h

theorem Unbroken.append {s t : String} (hs : Unbroken s) (ht : Unbroken t) :
    Unbroken (s ++ t) := by
  rw [Unbroken, String.toList_append, List.mem_append, not_or]
  exact ⟨hs, ht⟩

theorem Unbroken.join {sep : String} (hsep : Unbroken sep) {parts : List String}
    (h : ∀ s ∈ parts, Unbroken s) : Unbroken (join sep parts) := by
  rw [Unbroken, toList_join]
  intro hbreak
  rcases Naming.mem_intercalate hbreak with hbreak | ⟨w, hw, hbreak⟩
  · exact hsep hbreak
  · obtain ⟨s, hs, rfl⟩ := List.mem_map.1 hw
    exact h s hs hbreak

theorem unbroken_of_isAlphanum {s : String} (h : ∀ c ∈ s.toList, c.isAlphanum = true) :
    Unbroken s :=
  fun hbreak => absurd (h _ hbreak) (by decide)

/-- Lines, each with a line feed behind it. -/
def unlines : List String → String
  | [] => ""
  | l :: ls => l ++ "\n" ++ unlines ls

theorem unlines_append (ls more : List String) :
    unlines (ls ++ more) = unlines ls ++ unlines more := by
  induction ls with
  | nil => simp [unlines]
  | cons l ls ih => simp [unlines, ih, String.append_assoc]

theorem toList_unlines_cons (l : String) (ls : List String) :
    (unlines (l :: ls)).toList = l.toList ++ '\n' :: (unlines ls).toList := by
  simp [unlines]

/-- Cutting at the line feeds gives the lines, and an empty one behind the last. -/
theorem splitOn_unlines {ls : List String} (h : ∀ l ∈ ls, Unbroken l) :
    (unlines ls).toList.splitOn '\n' = ls.map String.toList ++ [[]] := by
  induction ls with
  | nil => rfl
  | cons l ls ih =>
      obtain ⟨hl, hls⟩ := List.forall_mem_cons.1 h
      rw [toList_unlines_cons, List.splitOn_append_cons_self, List.splitOn_eq_singleton hl, ih hls]
      rfl

/-- Lines in front of a text are cut off from it; they may be cut themselves. -/
theorem exists_splitOn_unlines_append (ls : List String) :
    ∃ pieces, (∀ p ∈ pieces, '\n' ∉ p) ∧
      ∀ t, (unlines ls ++ t).toList.splitOn '\n' = pieces ++ t.toList.splitOn '\n' := by
  induction ls with
  | nil => exact ⟨[], by simp, fun t => by rw [unlines, String.empty_append, List.nil_append]⟩
  | cons l ls ih =>
      obtain ⟨pieces, hpieces, hcut⟩ := ih
      refine ⟨l.toList.splitOn '\n' ++ pieces, ?_, fun t => ?_⟩
      · refine List.forall_mem_append.2 ⟨fun p hp hbreak => ?_, hpieces⟩
        exact absurd (Naming.not_of_mem_splitOnP hp '\n' hbreak) (by decide)
      · rw [String.toList_append, toList_unlines_cons, List.append_assoc, List.cons_append,
          List.splitOn_append_cons_self, ← String.toList_append, hcut, List.append_assoc]

/-- No line of a text holds a break. -/
theorem not_isLineBreak_of_mem {cs l : List Char} (h : l ∈ lineLists cs) :
    ∀ c ∈ l, isLineBreak c = false := by
  fun_induction lineLists cs generalizing l with
  | case1 => cases h
  | case2 rest ih =>
      rcases List.mem_cons.1 h with rfl | h
      · simp
      · exact ih h
  | case3 c rest _ hbreak ih =>
      rcases List.mem_cons.1 h with rfl | h
      · simp
      · exact ih h
  | case4 c rest _ hc hnone ih =>
      obtain rfl := List.mem_singleton.1 h
      simpa using hc
  | case5 c rest _ hc line more hsome ih =>
      rcases List.mem_cons.1 h with rfl | h
      · exact List.forall_mem_cons.2 ⟨by simpa using hc, ih (hsome ▸ List.mem_cons_self ..)⟩
      · exact ih (hsome ▸ List.mem_cons_of_mem _ h)

/-- Joining lines leaves out the last line feed only. -/
theorem join_append_newline {ls : List String} (h : ls ≠ []) :
    join "\n" ls ++ "\n" = unlines ls := by
  induction ls with
  | nil => exact absurd rfl h
  | cons l ls ih =>
      cases ls with
      | nil => simp [join, unlines, String.intercalate_singleton]
      | cons m ls =>
          rw [unlines, ← ih (List.cons_ne_nil _ _), join, join, String.intercalate_cons_cons]
          simp [String.append_assoc]

end Text

namespace Dart

open Text (isBlank unlines Unbroken)

/-! ### Lines that are kept -/

/-- A line that ends in something visible. -/
def IsSolid (l : String) : Prop :=
  Unbroken l ∧ (l.toList.getLast?.any fun c => !isBlank c) = true

instance (l : String) : Decidable (IsSolid l) :=
  inferInstanceAs (Decidable (Unbroken l ∧ _ = true))

/-- Characters that end a line in something visible. -/
def solidChars (cs : List Char) : Bool :=
  !cs.elem '\n' && cs.getLast?.any fun c => !isBlank c

/-- A line that is spelled out. -/
theorem IsSolid.of_chars {l : String} {cs : List Char} (hl : l = String.ofList cs)
    (h : solidChars cs = true) : IsSolid l := by
  rw [solidChars, Bool.and_eq_true, Bool.not_eq_true'] at h
  refine ⟨.of_chars hl h.1, ?_⟩
  rw [hl, String.toList_ofList, h.2]

theorem IsSolid.ne_nil {l : String} (h : IsSolid l) : l.toList ≠ [] := by
  intro hnil
  have hlast := h.2
  rw [hnil] at hlast
  cases hlast

theorem isSolid_append {s t : String} (hs : Unbroken s) (ht : IsSolid t) : IsSolid (s ++ t) := by
  refine ⟨hs.append ht.1, ?_⟩
  rw [String.toList_append, List.getLast?_append_of_ne_nil _ ht.ne_nil]
  exact ht.2

/-- A line that is spelled out around a text. -/
theorem IsSolid.around {front gap behind : String} {f b : List Char} (hgap : Unbroken gap)
    (hfront : front = String.ofList f) (hbehind : behind = String.ofList b)
    (h : (!f.elem '\n' && solidChars b) = true) : IsSolid (front ++ gap ++ behind) := by
  rw [Bool.and_eq_true, Bool.not_eq_true'] at h
  exact isSolid_append ((Unbroken.of_chars hfront h.1).append hgap) (.of_chars hbehind h.2)

/-- Solid lines with one in front of them that is spelled out. -/
theorem forall_isSolid_cons {l : String} {cs : List Char} {ls : List String}
    (hl : l = String.ofList cs) (h : solidChars cs = true) (hs : ∀ k ∈ ls, IsSolid k) :
    ∀ k ∈ l :: ls, IsSolid k :=
  List.forall_mem_cons.2 ⟨.of_chars hl h, hs⟩

/-- A line with its blanks at the end left out, if there is anything visible. -/
theorem isSolid_stripEnd {s : String} (hs : Unbroken s)
    (hc : ∃ c ∈ s.toList, isBlank c = false) : IsSolid (Text.stripEnd s) := by
  rw [IsSolid, Unbroken, Text.stripEnd, String.toList_ofList]
  constructor
  · intro hbreak
    rw [Text.trimEnd, List.mem_reverse] at hbreak
    exact hs (List.mem_reverse.1 ((List.dropWhile_sublist _).subset hbreak))
  · cases hlast : (Text.trimEnd isBlank s.toList).getLast? with
    | none =>
        obtain ⟨c, hc, hvisible⟩ := hc
        have hall := (Text.trimEnd_eq_nil_iff _ _).1 (List.getLast?_eq_none_iff.1 hlast) c hc
        rw [hvisible] at hall
        cases hall
    | some c => simp [Text.getLast?_trimEnd _ _ c hlast]

theorem IsSolid.trimEnd_eq {l : String} (h : IsSolid l) :
    Text.trimEnd isBlank l.toList = l.toList := by
  obtain ⟨c, hc, hvisible⟩ := (Option.any_eq_true _ _).1 h.2
  obtain ⟨cs, hcs⟩ := List.getLast?_eq_some_iff.1 hc
  rw [hcs, Text.trimEnd_append_singleton, if_neg (by simpa using hvisible)]

/-- Solid lines, with single blank lines between them. -/
inductive IsLaid : List String → Prop
  | one {l : String} (h : IsSolid l) : IsLaid [l]
  | line {l : String} {ls : List String} (h : IsSolid l) (hs : IsLaid ls) : IsLaid (l :: ls)
  | gap {l : String} {ls : List String} (h : IsSolid l) (hs : IsLaid ls) : IsLaid (l :: "" :: ls)

namespace IsLaid

variable {ls more : List String}

theorem append (h : IsLaid ls) (hmore : IsLaid more) : IsLaid (ls ++ more) := by
  induction h with
  | one h => exact .line h hmore
  | line h _ ih => exact .line h ih
  | gap h _ ih => exact .gap h ih

/-- Lines with a blank one in front of further lines. -/
theorem apart (h : IsLaid ls) (hmore : IsLaid more) : IsLaid (ls ++ "" :: more) := by
  induction h with
  | one h => exact .gap h hmore
  | line h _ ih => exact .line h ih
  | gap h _ ih => exact .gap h ih

/-- Lines with further ones behind them, each of which has a blank one in front of it. -/
theorem apart_flatMap {α : Type} {g : α → List String} {xs : List α} (h : IsLaid ls)
    (hxs : ∀ x ∈ xs, IsLaid (g x)) : IsLaid (ls ++ xs.flatMap fun x => "" :: g x) := by
  induction xs generalizing ls with
  | nil => rwa [List.flatMap_nil, List.append_nil]
  | cons x xs ih =>
      obtain ⟨hx, hxs⟩ := List.forall_mem_cons.1 hxs
      rw [List.flatMap_cons, ← List.append_assoc]
      exact ih (h.apart hx) hxs

/-- Lines in front of which there may be solid ones. -/
theorem of_solid_append (h : ∀ l ∈ ls, IsSolid l) (hmore : IsLaid more) : IsLaid (ls ++ more) := by
  induction ls with
  | nil => exact hmore
  | cons l ls ih =>
      obtain ⟨hl, hls⟩ := List.forall_mem_cons.1 h
      exact .line hl (ih hls)

/-- Solid lines without blank ones. -/
theorem of_solid (h : ∀ l ∈ ls, IsSolid l) (hne : ls ≠ []) : IsLaid ls := by
  rw [← List.dropLast_append_getLast hne]
  exact .of_solid_append (fun l hl => h l (List.mem_of_mem_dropLast hl))
    (.one (h _ (List.getLast_mem hne)))

theorem unbroken (h : IsLaid ls) : ∀ l ∈ ls, Unbroken l := by
  induction h with
  | one h => exact List.forall_mem_singleton.2 h.1
  | line h _ ih => exact List.forall_mem_cons.2 ⟨h.1, ih⟩
  | gap h _ ih => exact List.forall_mem_cons.2 ⟨h.1, List.forall_mem_cons.2 ⟨by decide, ih⟩⟩

theorem ne_nil (h : IsLaid ls) : ls ≠ [] := by
  cases h <;> exact List.cons_ne_nil _ _

/-! ### The layout of laid lines -/

theorem tidyLines_eq (h : IsLaid ls) (afterBlank : Bool) :
    tidyLines afterBlank (ls.map String.toList ++ [[]]) = ls.map String.toList ++ [[]] := by
  have hsolid : ∀ {l : String}, IsSolid l → ∀ b rest,
      tidyLines b (l.toList :: rest) = l.toList :: tidyLines false rest := by
    intro l hl b rest
    rw [tidyLines, hl.trimEnd_eq, if_neg (by simpa using hl.ne_nil)]
  induction h generalizing afterBlank with
  | one h =>
      rw [List.map_singleton, List.singleton_append, hsolid h]
      rfl
  | line h _ ih => rw [List.map_cons, List.cons_append, hsolid h, ih]
  | gap h _ ih =>
      rw [List.map_cons, List.map_cons, List.cons_append, List.cons_append, hsolid h]
      show _ :: [] :: tidyLines true _ = _
      rw [ih]
      rfl

theorem exists_last (h : IsLaid ls) : ∃ before l, ls = before ++ [l] ∧ IsSolid l := by
  induction h with
  | @one l h => exact ⟨[], l, rfl, h⟩
  | @line l _ _ _ ih =>
      obtain ⟨before, last, rfl, hlast⟩ := ih
      exact ⟨l :: before, last, rfl, hlast⟩
  | @gap l _ _ _ ih =>
      obtain ⟨before, last, rfl, hlast⟩ := ih
      exact ⟨l :: "" :: before, last, rfl, hlast⟩

/-- Only the empty line behind the last line feed is dropped. -/
theorem dropBlankEnd_eq (h : IsLaid ls) (front : List (List Char)) :
    dropBlankEnd (front ++ (ls.map String.toList ++ [[]])) = front ++ ls.map String.toList := by
  obtain ⟨before, l, rfl, hl⟩ := h.exists_last
  have hkept : List.isEmpty l.toList = false := by
    rw [Bool.eq_false_iff, ne_eq, List.isEmpty_iff]
    exact hl.ne_nil
  simp [dropBlankEnd, hkept]

end IsLaid

/-- Code in its layout, by its lines. -/
theorem tidy_eq_of_codeLines {ls : List String} (hne : ls ≠ []) {code : String}
    (hcode : codeLines code = ls.map String.toList) : tidy code = unlines ls := by
  have hlines : (ls.map String.toList).map String.ofList = ls := by
    rw [List.map_map]
    exact (List.map_congr_left fun l _ => String.ofList_toList).trans (List.map_id ls)
  rw [tidy, hcode, hlines, Text.join_append_newline hne]

/-- **Lines in their layout are left alone.** -/
theorem tidy_unlines {ls : List String} (h : IsLaid ls) : tidy (unlines ls) = unlines ls := by
  refine tidy_eq_of_codeLines h.ne_nil ?_
  rw [codeLines, Text.splitOn_unlines h.unbroken, h.tidyLines_eq]
  exact h.dropBlankEnd_eq []

/-- A blank line in front of them is left out. -/
theorem tidy_unlines_blank {ls : List String} (h : IsLaid ls) :
    tidy (unlines ("" :: ls)) = unlines ls := by
  refine tidy_eq_of_codeLines h.ne_nil ?_
  rw [codeLines, Text.splitOn_unlines (List.forall_mem_cons.2 ⟨by decide, h.unbroken⟩)]
  show dropBlankEnd (tidyLines true (ls.map String.toList ++ [[]])) = _
  rw [h.tidyLines_eq]
  exact h.dropBlankEnd_eq []

/-- What becomes of lines does not depend on what follows them. -/
theorem exists_tidyLines_append (afterBlank : Bool) (lines : List (List Char)) :
    ∃ kept last, (∀ l ∈ kept, ∃ line ∈ lines, l ⊆ line) ∧
      ∀ more, tidyLines afterBlank (lines ++ more) = kept ++ tidyLines last more := by
  induction lines generalizing afterBlank with
  | nil => exact ⟨[], afterBlank, by simp, fun _ => rfl⟩
  | cons line lines ih =>
      by_cases hblank : (Text.trimEnd isBlank line).isEmpty = true
      · obtain ⟨kept, last, hkept, heq⟩ := ih true
        have hsub : ∀ l ∈ kept, ∃ other ∈ line :: lines, l ⊆ other := fun l hl =>
          let ⟨other, hother, hl⟩ := hkept l hl
          ⟨other, List.mem_cons_of_mem _ hother, hl⟩
        cases afterBlank with
        | true =>
            refine ⟨kept, last, hsub, fun more => ?_⟩
            rw [List.cons_append, tidyLines, if_pos hblank, if_pos rfl, heq]
        | false =>
            refine ⟨[] :: kept, last, List.forall_mem_cons.2
              ⟨⟨line, List.mem_cons_self .., List.nil_subset _⟩, hsub⟩, fun more => ?_⟩
            rw [List.cons_append, tidyLines, if_pos hblank, if_neg Bool.false_ne_true, heq]
            rfl
      · obtain ⟨kept, last, hkept, heq⟩ := ih false
        refine ⟨Text.trimEnd isBlank line :: kept, last, List.forall_mem_cons.2 ⟨⟨line,
          List.mem_cons_self .., ?_⟩, fun l hl => ?_⟩, fun more => ?_⟩
        · intro c hc
          rw [Text.trimEnd, List.mem_reverse] at hc
          exact List.mem_reverse.1 ((List.dropWhile_sublist _).subset hc)
        · obtain ⟨other, hother, hl⟩ := hkept l hl
          exact ⟨other, List.mem_cons_of_mem _ hother, hl⟩
        · rw [List.cons_append, tidyLines, if_neg hblank, heq]
          rfl

/-- **Whatever stands in front of them, lines in their layout are left alone.** -/
theorem exists_tidy_append {ls : List String} (h : IsLaid ls) (before : List String) :
    ∃ front, (∀ l ∈ front, Unbroken l) ∧ tidy (unlines (before ++ ls)) = unlines (front ++ ls) := by
  obtain ⟨pieces, hpieces, hcut⟩ := Text.exists_splitOn_unlines_append before
  obtain ⟨kept, last, hkept, hlines⟩ := exists_tidyLines_append true pieces
  refine ⟨kept.map String.ofList, List.forall_mem_map.2 fun l hl => ?_,
    tidy_eq_of_codeLines (List.append_ne_nil_of_right_ne_nil _ h.ne_nil) ?_⟩
  · obtain ⟨line, hline, hsub⟩ := hkept l hl
    rw [Unbroken, String.toList_ofList]
    exact fun hbreak => hpieces line hline (hsub hbreak)
  · have hfront : (kept.map String.ofList).map String.toList = kept := by
      rw [List.map_map]
      exact (List.map_congr_left fun l _ => String.toList_ofList).trans (List.map_id kept)
    rw [codeLines, Text.unlines_append, hcut, Text.splitOn_unlines h.unbroken, hlines,
      h.tidyLines_eq, h.dropBlankEnd_eq, List.map_append, hfront]

/-! ### Comments -/

/-- The lines of a comment. -/
def commentLines (width : Nat) (s : String) : List String :=
  (Text.lines s).map fun line => Text.stripEnd (Text.spaces width ++ "/// " ++ line)

/-- Each line of a comment ends in something visible. -/
theorem isSolid_commentLines (width : Nat) (s : String) :
    ∀ l ∈ commentLines width s, IsSolid l := by
  intro l hl
  obtain ⟨line, hline, rfl⟩ := List.mem_map.1 hl
  obtain ⟨cs, hcs, rfl⟩ := List.mem_map.1 hline
  refine isSolid_stripEnd ?_ ⟨'/', by simp, by decide⟩
  have hspaces : Unbroken (Text.spaces width) := by
    rw [Unbroken, Text.spaces, String.toList_ofList]
    intro hbreak
    cases List.eq_of_mem_replicate hbreak
  have hline : Unbroken (String.ofList cs) := by
    rw [Unbroken, String.toList_ofList]
    intro hbreak
    cases Text.not_isLineBreak_of_mem hcs _ hbreak
  exact (hspaces.append (by decide)).append hline

/-- A comment is made of its lines. -/
theorem comment_append_newline {width : Nat} {s : String} (h : s ≠ "") :
    comment width s ++ "\n" = unlines (commentLines width s) := by
  refine Text.join_append_newline fun hnone => ?_
  rw [List.map_eq_nil_iff, Text.lines, List.map_eq_nil_iff, Text.lineLists_eq_nil_iff] at hnone
  exact h (String.toList_eq_nil_iff.1 hnone)

/-- Something to say is a comment. -/
theorem comment_ne_empty {width : Nat} {s : String} (h : s ≠ "") : comment width s ≠ "" := by
  intro hempty
  have hlines := @comment_append_newline width s h
  rw [hempty] at hlines
  cases hcomment : commentLines width s with
  | nil =>
      rw [hcomment] at hlines
      exact absurd hlines (by decide)
  | cons l ls =>
      -- A line feed is all there is, so nothing stands in front of it.
      have hsolid := isSolid_commentLines width s l (hcomment ▸ List.mem_cons_self ..)
      have hlength := congrArg (fun t : String => t.toList.length) hlines
      rw [hcomment, Text.toList_unlines_cons, List.length_append, List.length_cons] at hlength
      have hpositive := List.length_pos_iff.2 hsolid.ne_nil
      have hone : ("" ++ "\n" : String).toList.length = 1 := by decide
      omega

end Dart

end DartScaffold
