/-
**The beginning of a line decides whether it is a comment.**

Two texts are written side by side: the same lines, but in the second one there are comments in
front of some of them.  Both end in the same unfinished line.  What is known about this line is
either its characters, or that its first visible character is no slash, or that it will be visible
and no comment however it goes on.  Each further character, and each further text on one line, takes
what is known to what is known then.  So it can be told in advance whether any line of the first
text is a comment, and whether each comment of the second one stands in front of something visible.

Main definitions:

* `Dart.isMild`, `Dart.isSafe` — a beginning whose first visible character is no slash, and one that
  makes the line visible and no comment;
* `Dart.Spot` — what is known about the unfinished line;
* `Dart.Spot.next`, `Dart.Spot.take`, `Dart.Spot.join?` — what is known behind a character, behind a
  text that is not known itself, and if it is not known which of two cases holds;
* `Dart.Parallel` — two texts that are written side by side.

Main results:

* `Dart.Parallel.run`, `Dart.Parallel.take`, `Dart.Parallel.lines`, `Dart.Parallel.note` — **texts
  stay side by side** when both go on alike, and when a comment is written in the second one.
-/

import DartScaffold.Proofs.Generation.CommentLines

set_option relaxedAutoImplicit false
set_option autoImplicit false

namespace DartScaffold.Dart

open Text (isBlank unlines Unbroken)

/-! ### Beginnings -/

/-- The first visible character, if there is one, is no slash. -/
def isMild (row : List Char) : Bool := (row.dropWhile isBlank).head? != some '/'

/-- The visible characters neither begin like a comment nor may become one. -/
def isSafe (row : List Char) : Bool :=
  let shown := row.dropWhile isBlank
  !slashes.isPrefixOf shown && !shown.isPrefixOf slashes

section

variable {row more : List Char}

theorem isVisible_iff : isVisible row = true ↔ row.dropWhile isBlank ≠ [] := by
  rw [Ne, List.dropWhile_eq_nil_iff]
  simp [isVisible]

/-- Blanks alone are mild. -/
theorem isMild_of_not_isVisible (h : isVisible row = false) : isMild row = true := by
  have hnone : row.dropWhile isBlank = [] := by
    by_contra hne
    rw [isVisible_iff.2 hne] at h
    cases h
  rw [isMild, hnone]
  rfl

/-- What is visible decides alone. -/
theorem dropWhile_append_of_isVisible (h : isVisible row = true) (more : List Char) :
    (row ++ more).dropWhile isBlank = row.dropWhile isBlank ++ more := by
  rw [List.dropWhile_append, if_neg]
  rw [List.isEmpty_iff]
  exact isVisible_iff.1 h

theorem isMild_append_of_isVisible (h : isVisible row = true) (more : List Char) :
    isMild (row ++ more) = isMild row := by
  rw [isMild, isMild, dropWhile_append_of_isVisible h, List.head?_append_of_ne_nil]
  exact isVisible_iff.1 h

theorem isMild_append (hrow : isMild row = true) (hmore : isMild more = true) :
    isMild (row ++ more) = true := by
  cases h : isVisible row with
  | true => rw [isMild_append_of_isVisible h, hrow]
  | false =>
      have hblank : ∀ c ∈ row, isBlank c = true := by simpa [isVisible] using h
      rwa [isMild, List.dropWhile_append_of_pos hblank, ← isMild]

/-- Without a slash a line is mild. -/
theorem isMild_of_not_mem (h : '/' ∉ row) : isMild row = true := by
  rw [isMild, bne_iff_ne]
  intro hslash
  exact h ((List.dropWhile_sublist _).subset (List.mem_of_head? hslash))

theorem isComment_of_isMild (h : isMild row = true) : isComment row = false := by
  rw [← Bool.not_eq_true, isComment_iff]
  rintro ⟨more, hmore⟩
  rw [isMild, ← hmore] at h
  cases h

/-- A mild beginning is safe once it is visible. -/
theorem isSafe_of_isMild (h : isMild row = true) (hvisible : isVisible row = true) :
    isSafe row = true := by
  obtain ⟨c, shown, hshown⟩ := List.exists_cons_of_ne_nil (isVisible_iff.1 hvisible)
  have hslash : c ≠ '/' := by
    rintro rfl
    rw [isMild, hshown] at h
    cases h
  rw [isSafe, hshown]
  simp [slashes, List.isPrefixOf, hslash, hslash.symm]

theorem isVisible_of_isSafe (h : isSafe row = true) : isVisible row = true := by
  rw [isVisible_iff]
  intro hnone
  rw [isSafe, hnone] at h
  cases h

theorem isComment_of_isSafe (h : isSafe row = true) : isComment row = false := by
  rw [isSafe, Bool.and_eq_true, Bool.not_eq_true'] at h
  exact h.1

/-- A safe beginning stays safe. -/
theorem isSafe_append (h : isSafe row = true) (more : List Char) : isSafe (row ++ more) = true := by
  have hshown := dropWhile_append_of_isVisible (isVisible_of_isSafe h) more
  simp only [isSafe, hshown, Bool.and_eq_true, Bool.not_eq_true', ← Bool.not_eq_true,
    List.isPrefixOf_iff_prefix] at h ⊢
  obtain ⟨hbegins, hbegun⟩ := h
  refine ⟨fun hcomment => ?_, fun hcomment => hbegun ((List.prefix_append _ _).trans hcomment)⟩
  rcases List.prefix_or_prefix_of_prefix hcomment (List.prefix_append _ _) with h | h
  · exact hbegins h
  · exact hbegun h

end

/-! ### What is known about a line -/

/-- What is known about the line that is being written. -/
inductive Spot where
  /-- Its characters.  There are no comments in front of it, unless it owes something visible. -/
  | known (row : List Char) (owed : Bool)
  /-- It begins mildly, and there are no comments in front of it. -/
  | loose
  /-- It begins safely. -/
  | settled
  /-- It is no comment, and it does not go on.  There are no comments in front of it. -/
  | full
deriving DecidableEq, Repr

namespace Spot

/-- A line about which this is known. -/
def Fits : Spot → List Char → Prop
  | known row _, last => last = row
  | loose, last => isMild last = true
  | settled, last => isSafe last = true
  | full, last => isComment last = false

/-- There may be comments in front of the line. -/
def takesNotes : Spot → Bool
  | known _ owed => owed
  | loose | full => false
  | settled => true

/-- The line may end here. -/
def mayEnd : Spot → Bool
  | known row owed => !isComment row && (!owed || isVisible row)
  | loose | settled | full => true

/-- What is known behind a further character on the same line. -/
def feed (c : Char) : Spot → Option Spot
  | known row owed =>
    some (if isSafe (row ++ [c]) then settled else known (row ++ [c]) owed)
  | loose => if isBlank c then some loose else if c = '/' then none else some settled
  | settled => some settled
  | full => none

/-- What is known behind a further character. -/
def next (spot : Spot) (c : Char) : Option Spot :=
  if c = '\n' then if spot.mayEnd then some (known [] false) else none else spot.feed c

/-- What is known behind further characters. -/
def run : Spot → List Char → Option Spot
  | spot, [] => some spot
  | spot, c :: rest => (spot.next c).bind fun spot => run spot rest

/-- What is known behind a text on one line. -/
def take (mild : Bool) : Spot → Option Spot
  | known row owed => if mild && !owed && !isVisible row then some loose else none
  | loose => if mild then some loose else none
  | settled => some settled
  | full => none

/-- What is known in either of two cases. -/
def join? (a b : Spot) : Option Spot :=
  if a = b then some a
  else
    match a, b with
    | known [] owed, known [] owed' => some (known [] (owed || owed'))
    | _, _ => none

variable {spot spot' : Spot} {last : List Char}

/-- A line that may end is no comment, and it is visible if there are comments in front of it. -/
theorem Fits.of_mayEnd (h : spot.Fits last) (hend : spot.mayEnd = true) :
    isComment last = false ∧ (spot.takesNotes = true → isVisible last = true) := by
  cases spot with
  | known row owed =>
      obtain rfl := h
      rw [mayEnd, Bool.and_eq_true, Bool.not_eq_true'] at hend
      refine ⟨hend.1, fun howed => ?_⟩
      have howed : owed = true := howed
      rw [howed] at hend
      exact hend.2
  | loose => exact ⟨isComment_of_isMild h, fun hnotes => by cases hnotes⟩
  | settled => exact ⟨isComment_of_isSafe h, fun _ => isVisible_of_isSafe h⟩
  | full => exact ⟨h, fun hnotes => by cases hnotes⟩

/-- What is known behind further characters follows from what was known in front of them. -/
structure Leads (spot : Spot) (cs : List Char) (spot' : Spot) : Prop where
  takesNotes : spot.takesNotes = true → spot'.takesNotes = true
  fits : ∀ last, spot.Fits last → spot'.Fits (last ++ cs)

theorem leads_feed {c : Char} (h : spot.feed c = some spot') : spot.Leads [c] spot' := by
  cases spot with
  | known row owed =>
      obtain rfl := Option.some.inj h
      split_ifs with hsafe
      · refine ⟨fun _ => rfl, fun last hlast => ?_⟩
        obtain rfl := hlast
        exact hsafe
      · refine ⟨id, fun last hlast => ?_⟩
        obtain rfl := hlast
        rfl
  | loose =>
      rw [feed] at h
      split_ifs at h with hblank hslash
      · obtain rfl := Option.some.inj h
        refine ⟨id, fun last hlast => isMild_append hlast ?_⟩
        exact isMild_of_not_isVisible (by simp [isVisible, hblank])
      · obtain rfl := Option.some.inj h
        refine ⟨fun _ => rfl, fun last hlast => isSafe_of_isMild (isMild_append hlast ?_) ?_⟩
        · exact isMild_of_not_mem (by simpa using Ne.symm hslash)
        · simp [isVisible, hblank]
  | settled =>
      obtain rfl := Option.some.inj h
      exact ⟨id, fun last hlast => isSafe_append hlast _⟩
  | full => cases h

theorem leads_take {mild : Bool} (h : spot.take mild = some spot') {cs : List Char}
    (hmild : mild = true → isMild cs = true) : spot.Leads cs spot' := by
  cases spot with
  | known row owed =>
      rw [take] at h
      split_ifs at h with hcases
      obtain rfl := Option.some.inj h
      simp only [Bool.and_eq_true, Bool.not_eq_true'] at hcases
      obtain ⟨⟨hm, howed⟩, hblank⟩ := hcases
      refine ⟨fun hnotes => ?_, fun last hlast => ?_⟩
      · exact absurd (hnotes.symm.trans howed) (by decide)
      · obtain rfl := hlast
        exact isMild_append (isMild_of_not_isVisible hblank) (hmild hm)
  | loose =>
      rw [take] at h
      split_ifs at h with hm
      obtain rfl := Option.some.inj h
      exact ⟨id, fun last hlast => isMild_append hlast (hmild hm)⟩
  | settled =>
      obtain rfl := Option.some.inj h
      exact ⟨id, fun last hlast => isSafe_append hlast _⟩
  | full => cases h

end Spot

/-! ### Texts side by side -/

/-- Two texts that are written side by side: the second one has the lines of the first one, with
comments in front of some.  They end in the same line, about which something is known. -/
inductive Parallel (spot : Spot) (quiet loud : String) : Prop
  | mk (lines lines' notes : List (List Char)) (last : List Char)
      (hquiet : rows quiet = lines ++ [last]) (hloud : rows loud = lines' ++ (notes ++ [last]))
      (hlines : Documented lines lines') (hnotes : ∀ note ∈ notes, isComment note = true)
      (htakes : notes ≠ [] → spot.takesNotes = true) (hlast : spot.Fits last)

/-- What is written behind a text goes on with its last line. -/
theorem rows_append {t : String} {lines : List (List Char)} {last : List Char}
    (h : rows t = lines ++ [last]) (s : String) :
    rows (t ++ s) = lines ++ (rows s).modifyHead (last ++ ·) := by
  obtain ⟨ls, end', hls, hend, rfl⟩ := exists_eq_unlines_append t
  rw [rows_unlines_append hls, rows, List.splitOn_eq_singleton hend] at h
  obtain ⟨rfl, hlast⟩ := List.append_inj' h rfl
  rw [String.append_assoc, rows_unlines_append hls, rows_append_of_unbroken hend,
    List.singleton_inj.1 hlast]

namespace Parallel

variable {spot spot' : Spot} {quiet loud : String}

theorem empty : Parallel (.known [] false) "" "" :=
  .mk [] [] [] [] rfl rfl .nil (List.forall_mem_nil _) (absurd rfl) rfl

/-- Both texts go on with the same text on one line. -/
theorem write (h : Parallel spot quiet loud) {v : String} (hv : Unbroken v)
    (hleads : spot.Leads v.toList spot') : Parallel spot' (quiet ++ v) (loud ++ v) := by
  obtain ⟨lines, lines', notes, last, hquiet, hloud, hlines, hnotes, htakes, hlast⟩ := h
  have hrows : rows v = [v.toList] := List.splitOn_eq_singleton hv
  refine .mk lines lines' notes _ ?_ ?_ hlines hnotes
    (fun hne => hleads.takesNotes (htakes hne)) (hleads.fits _ hlast)
  · rw [rows_append hquiet, hrows]
    rfl
  · rw [← List.append_assoc] at hloud ⊢
    rw [rows_append hloud, hrows]
    rfl

/-- Both texts end their last line. -/
theorem newline (h : Parallel spot quiet loud) (hend : spot.mayEnd = true) :
    Parallel (.known [] false) (quiet ++ "\n") (loud ++ "\n") := by
  obtain ⟨lines, lines', notes, last, hquiet, hloud, hlines, hnotes, htakes, hlast⟩ := h
  obtain ⟨hcomment, hvisible⟩ := hlast.of_mayEnd hend
  have hlines : Documented (lines ++ [last]) (lines' ++ (notes ++ [last])) :=
    hlines.append (.cons hnotes (fun hne => hvisible (htakes hne)) hcomment .nil)
  have hrows : rows "\n" = [[], []] := by decide
  refine .mk _ _ [] [] ?_ ?_ hlines (List.forall_mem_nil _) (absurd rfl) rfl
  · rw [rows_append hquiet, hrows]
    simp
  · rw [← List.append_assoc] at hloud
    rw [rows_append hloud, hrows]
    simp

/-- Comments are written in the second text. -/
theorem note {owed : Bool} (h : Parallel (.known [] owed) quiet loud) {notes : List String}
    (hbreak : ∀ note ∈ notes, Unbroken note)
    (hnotes : ∀ note ∈ notes, isComment note.toList = true) :
    Parallel (.known [] true) quiet (loud ++ unlines notes) := by
  obtain ⟨lines, lines', before, last, hquiet, hloud, hlines, hbefore, htakes, hlast⟩ := h
  obtain rfl : last = [] := hlast
  have hrows : rows (unlines notes) = notes.map String.toList ++ [[]] := Text.splitOn_unlines hbreak
  refine .mk _ _ (before ++ notes.map String.toList) _ hquiet ?_ hlines ?_ (fun _ => rfl) rfl
  · rw [← List.append_assoc] at hloud
    rw [rows_append hloud, hrows]
    cases notes <;> simp
  · refine List.forall_mem_append.2 ⟨hbefore, fun l hl => ?_⟩
    obtain ⟨n, hn, rfl⟩ := List.mem_map.1 hl
    exact hnotes n hn

/-- Comments may be in front of the line, but need not. -/
theorem owe {owed : Bool} {row : List Char} (h : Parallel (.known row owed) quiet loud) :
    Parallel (.known row true) quiet loud := by
  obtain ⟨lines, lines', notes, last, hquiet, hloud, hlines, hnotes, htakes, hlast⟩ := h
  exact .mk lines lines' notes last hquiet hloud hlines hnotes (fun _ => rfl) hlast

/-- Either case leads to what is known in both. -/
theorem join {a b : Spot} (hspot : a.join? b = some spot)
    (h : Parallel a quiet loud ∨ Parallel b quiet loud) : Parallel spot quiet loud := by
  unfold Spot.join? at hspot
  split_ifs at hspot with hsame
  · obtain rfl := Option.some.inj hspot
    exact h.elim id fun hb => hsame ▸ hb
  · split at hspot
    · rename_i owed owed'
      obtain rfl := Option.some.inj hspot
      have hdiffer : (owed || owed') = true := by
        cases owed <;> cases owed' <;> simp at hsame ⊢
      rw [hdiffer]
      exact h.elim owe owe
    · cases hspot

/-- A further character. -/
theorem next (h : Parallel spot quiet loud) {c : Char} (hc : spot.next c = some spot') :
    Parallel spot' (quiet ++ String.singleton c) (loud ++ String.singleton c) := by
  rw [Spot.next] at hc
  by_cases hbreak : c = '\n'
  · rw [if_pos hbreak] at hc
    split_ifs at hc with hend
    obtain rfl := Option.some.inj hc
    rw [hbreak]
    exact h.newline hend
  · rw [if_neg hbreak] at hc
    refine h.write ?_ ?_
    · rw [Unbroken, String.toList_singleton, List.mem_singleton]
      exact Ne.symm hbreak
    · rw [String.toList_singleton]
      exact Spot.leads_feed hc

/-- **Further characters.** -/
theorem run (h : Parallel spot quiet loud) {cs : List Char} (hcs : spot.run cs = some spot') :
    Parallel spot' (quiet ++ String.ofList cs) (loud ++ String.ofList cs) := by
  induction cs generalizing spot quiet loud with
  | nil =>
      obtain rfl := Option.some.inj hcs
      simpa using h
  | cons c cs ih =>
      obtain ⟨middle, hmiddle, hrest⟩ := Option.bind_eq_some_iff.1 hcs
      have hsplit : String.ofList (c :: cs) = String.singleton c ++ String.ofList cs :=
        String.toList_injective (by simp)
      rw [hsplit, ← String.append_assoc, ← String.append_assoc]
      exact ih (h.next hmiddle) hrest

/-- **A further text on one line**, which begins mildly if it must. -/
theorem take (h : Parallel spot quiet loud) {mild : Bool} (hspot : spot.take mild = some spot')
    {v : String} (hv : Unbroken v) (hmild : mild = true → isMild v.toList = true) :
    Parallel spot' (quiet ++ v) (loud ++ v) := h.write hv (Spot.leads_take hspot hmild)

/-- **Further lines**, none of which is a comment. -/
theorem lines (h : Parallel (.known [] false) quiet loud) {v : String}
    (hv : ∀ row ∈ rows v, isComment row = false) : Parallel .full (quiet ++ v) (loud ++ v) := by
  obtain ⟨lines, lines', notes, last, hquiet, hloud, hlines, hnotes, htakes, hlast⟩ := h
  obtain rfl : last = [] := hlast
  have hnone : notes = [] := by
    by_contra hne
    exact absurd (htakes hne) (by decide)
  have hrows : (rows v).modifyHead (([] : List Char) ++ ·) = rows v := by
    cases rows v <;> rfl
  have hsplit := (List.dropLast_append_getLast (List.splitOn_ne_nil '\n' v.toList)).symm
  have hkept := fun row hrow => hv row (List.mem_of_mem_dropLast hrow)
  refine .mk _ _ [] _ ?_ ?_ (hlines.append (.of_forall hkept)) (List.forall_mem_nil _)
    (absurd rfl) (hv _ (List.getLast_mem (List.splitOn_ne_nil _ _)))
  · rw [rows_append hquiet, hrows, List.append_assoc]
    exact congrArg _ hsplit
  · rw [hnone] at hloud
    rw [rows_append hloud, hrows, List.append_assoc]
    exact congrArg _ hsplit

/-- In the end all lines are those of the first text, with comments in front of some. -/
theorem documented (h : Parallel spot quiet loud) (hend : spot.mayEnd = true) :
    Documented (rows quiet) (rows loud) := by
  obtain ⟨lines, lines', notes, last, hquiet, hloud, hlines, hnotes, htakes, hlast⟩ := h
  obtain ⟨hcomment, hvisible⟩ := hlast.of_mayEnd hend
  rw [hquiet, hloud]
  exact hlines.append (.cons hnotes (fun hne => hvisible (htakes hne)) hcomment .nil)

end Parallel

end DartScaffold.Dart
