/-
**Reading the class of a form's state.**

What the class of a form's state says about its controls can be read off from its text, line by
line, without knowing what it was generated from.  A line says something if it has a fixed beginning
and a fixed end, and what stands between them is a name, a key or a message.  Of the lines that the
template writes, each fits one such pattern or none: where two beginnings or two ends differ within
their common length, no text between them makes up for it.

Main definitions:

* `Dart.LineKind`, `Dart.LinePattern`, `Dart.linePatterns` — what a line can say, and how it is
  told;
* `Dart.Mark`, `Dart.readLine`, `Dart.stateMarks` — what is read from a line, and from the last
  class of a state in a text;
* `Dart.gaps`, `Dart.pairs`, `Dart.textFields` — what stands in the lines of a kind, in lines that
  follow each other, and in what belongs to a text field;
* `Dart.InPlace` — lines stand in the methods in which they belong.

Main results:

* `Dart.readLine_gap` — **a line is read by the patterns that do not clash with it**;
* `Dart.stateMarks_unlines` — what stands in front of the class does not matter;
* `Dart.gaps_flatMap`, `Dart.pairs_flatMap`, `Dart.foldr_gather_flatMap` — reading sections that go
  through a list.
-/

import Mathlib
import DartScaffold.Proofs.Text.Lines

set_option relaxedAutoImplicit false
set_option autoImplicit false

namespace DartScaffold.Dart

open Text (Unbroken unlines)

/-! ### Lines with a gap -/

section Gaps

variable {α : Type} [BEq α] [LawfulBEq α]

/-- What stands between a beginning and an end. -/
def between? (front behind line : List α) : Option (List α) :=
  if front.isPrefixOf line && behind.isSuffixOf (line.drop front.length) then
    some ((line.drop front.length).take ((line.drop front.length).length - behind.length))
  else none

theorem between?_append (front gap behind : List α) :
    between? front behind (front ++ gap ++ behind) = some gap := by
  have hdrop : (front ++ gap ++ behind).drop front.length = gap ++ behind := by
    rw [List.append_assoc, List.drop_left]
  have hfront : front.isPrefixOf (front ++ gap ++ behind) = true := by
    rw [List.isPrefixOf_iff_prefix, List.append_assoc]
    exact List.prefix_append ..
  have hbehind : behind.isSuffixOf (gap ++ behind) = true := by
    rw [List.isSuffixOf_iff_suffix]
    exact List.suffix_append ..
  rw [between?, hdrop, hfront, hbehind, List.length_append, Nat.add_sub_cancel, List.take_left]
  rfl

/-- Two lists differ within their common length. -/
def differ (xs ys : List α) : Bool := !(xs.isPrefixOf ys || ys.isPrefixOf xs)

theorem not_prefix_of_differ {xs ys zs : List α} (h : differ xs ys = true) (hys : ys <+: zs) :
    ¬ xs <+: zs := by
  intro hxs
  rw [differ, Bool.not_eq_true', Bool.or_eq_false_iff] at h
  rcases List.prefix_or_prefix_of_prefix hxs hys with hprefix | hprefix
  · rw [List.isPrefixOf_iff_prefix.2 hprefix] at h
    exact absurd h.1 (by decide)
  · rw [List.isPrefixOf_iff_prefix.2 hprefix] at h
    exact absurd h.2 (by decide)

/-- Where the beginnings or the ends differ, no gap makes up for it. -/
theorem between?_of_differ {front behind front' behind' : List α}
    (h : (differ front front' || differ behind.reverse behind'.reverse) = true) (gap : List α) :
    between? front behind (front' ++ gap ++ behind') = none := by
  rw [between?, if_neg]
  rw [Bool.and_eq_true, List.isPrefixOf_iff_prefix, List.isSuffixOf_iff_suffix]
  rintro ⟨hfront, hbehind⟩
  rcases Bool.or_eq_true_iff.1 h with hdiffer | hdiffer
  · refine not_prefix_of_differ hdiffer ?_ hfront
    rw [List.append_assoc]
    exact List.prefix_append ..
  · refine not_prefix_of_differ hdiffer ?_ (List.reverse_prefix.2
      (hbehind.trans (List.drop_suffix ..)))
    exact List.reverse_prefix.2 (List.suffix_append ..)

end Gaps

/-! ### What a line can say -/

/-- What a line of the class can say. -/
inductive LineKind where
  /-- The class begins. -/
  | opening
  /-- A controller is declared. -/
  | controller
  /-- A flag is declared. -/
  | flag
  /-- A controller is assigned. -/
  | assigned
  /-- The text that a controller begins with stands under a key. -/
  | begun
  /-- A flag is set to what stands under a key. -/
  | raised
  /-- A controller is disposed of. -/
  | disposed
  /-- A text field begins. -/
  | textField
  /-- The controller of a text field. -/
  | entered
  /-- What happens when a text field is tapped. -/
  | tapped
  /-- What is said if nothing is entered in a text field. -/
  | validated
  /-- A tile with a switch begins. -/
  | switchTile
  /-- The flag of a switch. -/
  | switched
  /-- A method that lets a date be picked is defined. -/
  | picker
  /-- Another method is defined. -/
  | method
deriving DecidableEq, Repr

/-- What a line says by its beginning and its end. -/
structure LinePattern where
  kind : LineKind
  front : List Char
  behind : List Char
deriving DecidableEq

/-- A pattern that is spelled out.  The characters are those of the texts; they are found when the
pattern is written down, so that nothing has to be decoded when it is compared. -/
def LinePattern.spelled (kind : LineKind) (front behind : String) {f b : List Char}
    (_ : front = String.ofList f) (_ : behind = String.ofList b) : LinePattern :=
  ⟨kind, f, b⟩

/-- The patterns of the lines that say something.  The low line in front of a name is part of the
beginning. -/
def linePatterns : List LinePattern := [
  .spelled .opening "class _" "> \x7b" rfl rfl,
  .spelled .controller "  late final TextEditingController _" ";" rfl rfl,
  .spelled .controller "  TextEditingController _" ";" rfl rfl,
  .spelled .flag "  bool _" " = false;" rfl rfl,
  .spelled .assigned "    _" " = TextEditingController(" rfl rfl,
  .spelled .begun "      text: initial['" "']?.toString() ?? ''," rfl rfl,
  .spelled .raised "    _" "'] == true;" rfl rfl,
  .spelled .disposed "    _" ".dispose();" rfl rfl,
  .spelled .textField "          TextFormField(" "" rfl rfl,
  .spelled .entered "            controller: _" "," rfl rfl,
  .spelled .tapped "            onTap: _" "," rfl rfl,
  .spelled .validated "                value == null || value.isEmpty ? '" "' : null," rfl rfl,
  .spelled .switchTile "          SwitchListTile(" "" rfl rfl,
  .spelled .switched "            value: _" "," rfl rfl,
  .spelled .picker "  Future<void> _" "() async \x7b" rfl rfl,
  .spelled .method "  void " "() \x7b" rfl rfl,
  .spelled .method "  bool " "() \x7b" rfl rfl,
  .spelled .method "  Widget " "(BuildContext context) \x7b" rfl rfl,
  .spelled .method "  Map<String, dynamic> " "() \x7b" rfl rfl]

/-- What is read from a line: what it says, and what stands in its gap. -/
structure Mark where
  kind : LineKind
  gap : String
deriving DecidableEq, Repr

/-- What a line says by a pattern. -/
def readBy (p : LinePattern) (line : List Char) : Option Mark :=
  (between? p.front p.behind line).map fun gap => ⟨p.kind, String.ofList gap⟩

/-- What a line says. -/
def readLine (line : List Char) : Option Mark := linePatterns.findSome? (readBy · line)

/-- What lines say. -/
def readLines (lines : List String) : List Mark := lines.filterMap fun l => readLine l.toList

/-- What the last class of a state in a text says. -/
def stateMarks (text : String) : List Mark :=
  ((text.toList.splitOn '\n').filterMap readLine).rtakeWhile fun mark => mark.kind != .opening

/-- A pattern clashes with a beginning and an end. -/
def LinePattern.clashes (p : LinePattern) (front behind : List Char) : Bool :=
  differ p.front front || differ p.behind.reverse behind.reverse

/-- The patterns that a line with a beginning and an end may fit. -/
def candidates (front behind : List Char) : List LinePattern :=
  linePatterns.filter fun p => !p.clashes front behind

/-- **A line is read by the patterns that do not clash with it.** -/
theorem readLine_gap (front gap behind : List Char) :
    readLine (front ++ gap ++ behind) =
      (candidates front behind).findSome? (readBy · (front ++ gap ++ behind)) := by
  rw [readLine, candidates]
  induction linePatterns with
  | nil => rfl
  | cons p patterns ih =>
      rw [List.findSome?_cons, List.filter_cons, ih]
      cases hclash : p.clashes front behind with
      | false => rw [Bool.not_false, if_pos rfl, List.findSome?_cons]
      | true =>
          have hnone : readBy p (front ++ gap ++ behind) = none := by
            rw [readBy, between?_of_differ hclash]
            rfl
          rw [hnone, Bool.not_true, if_neg Bool.false_ne_true]

section

variable {front behind : String} {f b : List Char} (hfront : front = String.ofList f)
  (hbehind : behind = String.ofList b)
include hfront hbehind

/-- A line that can fit only the pattern that it is made from. -/
theorem readLine_of_candidates {kind : LineKind} (h : candidates f b = [⟨kind, f, b⟩])
    (gap : String) : readLine (front ++ gap ++ behind).toList = some ⟨kind, gap⟩ := by
  rw [hfront, hbehind, String.toList_append, String.toList_append, String.toList_ofList,
    String.toList_ofList, readLine_gap, h, List.findSome?_cons, readBy, between?_append,
    Option.map_some, String.ofList_toList]

/-- A line that can fit no pattern. -/
theorem readLine_of_no_candidates (h : candidates f b = []) (gap : String) :
    readLine (front ++ gap ++ behind).toList = none := by
  rw [hfront, hbehind, String.toList_append, String.toList_append, String.toList_ofList,
    String.toList_ofList, readLine_gap, h, List.findSome?_nil]

end

/-! ### What a class says -/

/-- What stands in the gaps of the lines of a kind. -/
def gaps (kind : LineKind) (marks : List Mark) : List String :=
  (marks.filter (·.kind == kind)).map Mark.gap

/-- What stands in the lines of a kind, each with what stands in the line behind it, if that is of
the second kind. -/
def pairs (first second : LineKind) : List Mark → List (String × Option String)
  | [] => []
  | m :: rest =>
    (if m.kind = first then [(m.gap, (rest.head?.filter (·.kind == second)).map Mark.gap)]
      else []) ++ pairs first second rest

/-- What belongs to a text field: its controllers, what happens when it is tapped, and what is said
if nothing is entered. -/
structure TextField where
  controllers : List String
  handlers : List String
  messages : List String
deriving DecidableEq, Repr

/-- From the last line on, what belongs to a text field is gathered until the field begins. -/
def gather (mark : Mark) (behind : TextField × List TextField) : TextField × List TextField :=
  match mark.kind with
  | .textField => (⟨[], [], []⟩, behind.1 :: behind.2)
  | .entered =>
    ({ behind.1 with controllers := mark.gap :: behind.1.controllers }, behind.2)
  | .tapped => ({ behind.1 with handlers := mark.gap :: behind.1.handlers }, behind.2)
  | .validated => ({ behind.1 with messages := mark.gap :: behind.1.messages }, behind.2)
  | _ => behind

/-- The text fields, each with what belongs to it. -/
def textFields (marks : List Mark) : List TextField :=
  (marks.foldr gather (⟨[], [], []⟩, [])).2

/-- The method in which lines of a kind belong.  What is declared stands in front of all
methods. -/
def LineKind.place : LineKind → Option String
  | .assigned | .begun | .raised => some "initState"
  | .disposed => some "dispose"
  | .textField | .entered | .tapped | .validated | .switchTile | .switched => some "build"
  | .opening | .controller | .flag | .picker | .method => none

/-- Lines stand in the methods in which they belong, if the last method that is defined in front of
them is the given one. -/
def InPlace : Option String → List Mark → Prop
  | _, [] => True
  | place, m :: rest =>
    if m.kind = .picker ∨ m.kind = .method then InPlace (some m.gap) rest
    else m.kind.place = place ∧ InPlace place rest

section

variable {α : Type} {kind first second : LineKind}

@[simp] theorem gaps_nil : gaps kind [] = [] := rfl

@[simp] theorem gaps_cons (m : Mark) (marks : List Mark) : gaps kind (m :: marks) =
    if m.kind = kind then m.gap :: gaps kind marks else gaps kind marks := by
  unfold gaps
  by_cases h : m.kind = kind <;> simp [h]

@[simp] theorem gaps_append (marks more : List Mark) :
    gaps kind (marks ++ more) = gaps kind marks ++ gaps kind more := by
  rw [gaps, List.filter_append, List.map_append]
  rfl

@[simp] theorem gaps_ite (p : Prop) [Decidable p] (marks more : List Mark) :
    gaps kind (if p then marks else more) = if p then gaps kind marks else gaps kind more :=
  apply_ite (gaps kind) p marks more

/-- What stands in sections that go through a list. -/
@[simp] theorem gaps_flatMap (xs : List α) (f : α → List Mark) :
    gaps kind (xs.flatMap f) = xs.flatMap fun x => gaps kind (f x) := by
  induction xs with
  | nil => rfl
  | cons x xs ih => rw [List.flatMap_cons, List.flatMap_cons, gaps_append, ih]

/-- Nothing is of a kind that no gap is of. -/
theorem ne_of_gaps_eq_nil {marks : List Mark} (h : gaps kind marks = []) {m : Mark}
    (hm : m ∈ marks) : m.kind ≠ kind :=
  fun hkind => List.filter_eq_nil_iff.1 (List.map_eq_nil_iff.1 h) m hm (beq_iff_eq.2 hkind)

theorem InPlace.method {place : Option String} {name : String} {rest : List Mark}
    (h : InPlace (some name) rest) : InPlace place (⟨.method, name⟩ :: rest) := by
  rw [InPlace, if_pos (.inr rfl)]
  exact h

theorem InPlace.picker {place : Option String} {name : String} {rest : List Mark}
    (h : InPlace (some name) rest) : InPlace place (⟨.picker, name⟩ :: rest) := by
  rw [InPlace, if_pos (.inl rfl)]
  exact h

/-- A section of lines that belong in the method. -/
theorem InPlace.flatMap {place : Option String} {xs : List α} {f : α → List Mark}
    (hf : ∀ x, ∀ m ∈ f x, m.kind ≠ .picker ∧ m.kind ≠ .method ∧ m.kind.place = place)
    {rest : List Mark} (h : InPlace place rest) : InPlace place (xs.flatMap f ++ rest) := by
  have hall : ∀ m ∈ xs.flatMap f, m.kind ≠ .picker ∧ m.kind ≠ .method ∧ m.kind.place = place := by
    intro m hm
    obtain ⟨x, -, hx⟩ := List.mem_flatMap.1 hm
    exact hf x m hx
  generalize xs.flatMap f = marks at hall
  induction marks with
  | nil => exact h
  | cons m marks ih =>
      obtain ⟨⟨hpicker, hmethod, hplace⟩, hmarks⟩ := List.forall_mem_cons.1 hall
      rw [List.cons_append, InPlace, if_neg (not_or.2 ⟨hpicker, hmethod⟩)]
      exact ⟨hplace, ih hmarks⟩

/-- A line of another kind begins no pair. -/
theorem pairs_cons_of_ne {m : Mark} (h : m.kind ≠ first) (marks : List Mark) :
    pairs first second (m :: marks) = pairs first second marks := by
  rw [pairs, if_neg h, List.nil_append]

/-- Lines of other kinds in front begin no pair. -/
theorem pairs_append_of_gaps {marks : List Mark} (h : gaps first marks = []) (rest : List Mark) :
    pairs first second (marks ++ rest) = pairs first second rest := by
  replace h : ∀ m ∈ marks, m.kind ≠ first := fun m => ne_of_gaps_eq_nil h
  induction marks with
  | nil => rfl
  | cons m marks ih =>
      obtain ⟨hm, hmarks⟩ := List.forall_mem_cons.1 h
      rw [List.cons_append, pairs_cons_of_ne hm, ih hmarks]

/-- Lines of other kinds alone are no pairs. -/
theorem pairs_of_gaps {marks : List Mark} (h : gaps first marks = []) :
    pairs first second marks = [] := by
  rw [← List.append_nil marks, pairs_append_of_gaps h, pairs]

/-- Two lines that are a pair. -/
theorem pairs_cons_pair (h : second ≠ first) (x y : String) (marks : List Mark) :
    pairs first second (⟨first, x⟩ :: ⟨second, y⟩ :: marks) =
      (x, some y) :: pairs first second marks := by
  rw [pairs, if_pos rfl, pairs_cons_of_ne h, List.head?_cons, Option.filter_some,
    if_pos (beq_self_eq_true second)]
  rfl

/-- Pairs in sections that go through a list. -/
theorem pairs_flatMap {xs : List α} {f : α → List Mark} {g : α → List (String × Option String)}
    (h : ∀ x rest, pairs first second (f x ++ rest) = g x ++ pairs first second rest)
    (rest : List Mark) :
    pairs first second (xs.flatMap f ++ rest) = xs.flatMap g ++ pairs first second rest := by
  induction xs with
  | nil => rfl
  | cons x xs ih =>
      rw [List.flatMap_cons, List.flatMap_cons, List.append_assoc, List.append_assoc, h, ih]

/-- Text fields in sections that go through a list. -/
theorem foldr_gather_flatMap (xs : List α) (f : α → List Mark) (g : α → List TextField)
    (h : ∀ x fields, (f x).foldr gather (⟨[], [], []⟩, fields) = (⟨[], [], []⟩, g x ++ fields))
    (fields : List TextField) : (xs.flatMap f).foldr gather (⟨[], [], []⟩, fields) =
      (⟨[], [], []⟩, xs.flatMap g ++ fields) := by
  induction xs with
  | nil => rfl
  | cons x xs ih =>
      rw [List.flatMap_cons, List.flatMap_cons, List.foldr_append, ih, h, List.append_assoc]

/-- Sections in which nothing belongs to a text field. -/
theorem foldr_gather_of_none (xs : List α) (f : α → List Mark)
    (h : ∀ x behind, (f x).foldr gather behind = behind)
    (behind : TextField × List TextField) : (xs.flatMap f).foldr gather behind = behind := by
  induction xs with
  | nil => rfl
  | cons x xs ih => rw [List.flatMap_cons, List.foldr_append, ih, h]

end

/-! ### Texts -/

@[simp] theorem readLines_append (lines more : List String) :
    readLines (lines ++ more) = readLines lines ++ readLines more :=
  List.filterMap_append ..

theorem readLines_cons_none {line : String} (h : readLine line.toList = none)
    (lines : List String) : readLines (line :: lines) = readLines lines :=
  List.filterMap_cons_none h

theorem readLines_cons_some {line : String} {mark : Mark} (h : readLine line.toList = some mark)
    (lines : List String) : readLines (line :: lines) = mark :: readLines lines :=
  List.filterMap_cons_some h

/-- Lines say these things.  They are read one after the other: fixed lines, and lines with a gap,
of which some say something and others do not. -/
abbrev Reads (lines : List String) (marks : List Mark) : Prop := readLines lines = marks

namespace Reads

variable {line front behind gap : String} {l f b : List Char} {lines : List String}
  {marks : List Mark}

theorem nil : Reads [] [] := rfl

theorem append {more : List String} {rest : List Mark} (h : Reads lines marks)
    (hmore : Reads more rest) : Reads (lines ++ more) (marks ++ rest) := by
  rw [Reads, readLines_append, h, hmore]

/-- Lines that say nothing, behind others, -/
theorem append_quiet {more : List String} (h : Reads lines marks) (hmore : Reads more []) :
    Reads (lines ++ more) marks := by
  rw [Reads, readLines_append, h, hmore, List.append_nil]

/-- and in front of others. -/
theorem quiet_append {more : List String} (h : Reads lines []) (hmore : Reads more marks) :
    Reads (lines ++ more) marks := by
  rw [Reads, readLines_append, h, hmore, List.nil_append]

/-- Sections with a blank line between them. -/
theorem apart {more : List String} {rest : List Mark} (h : Reads lines marks)
    (hmore : Reads more rest) : Reads (lines ++ [""] ++ more) (marks ++ rest) :=
  append (append_quiet h (by decide)) hmore

/-- Sections that go through a list. -/
theorem flatMap {α : Type} {xs : List α} {f : α → List String} {g : α → List Mark}
    (h : ∀ x, Reads (f x) (g x)) : Reads (xs.flatMap f) (xs.flatMap g) := by
  induction xs with
  | nil => exact .nil
  | cons x xs ih => exact .append (h x) ih

theorem skip (hline : line = String.ofList l) (h : readLine l = none)
    (hlines : Reads lines marks) : Reads (line :: lines) marks := by
  rw [Reads, readLines_cons_none (by rw [hline, String.toList_ofList, h]), hlines]

theorem take {mark : Mark} (hline : line = String.ofList l) (h : readLine l = some mark)
    (hlines : Reads lines marks) : Reads (line :: lines) (mark :: marks) := by
  rw [Reads, readLines_cons_some (by rw [hline, String.toList_ofList, h]), hlines]

variable (hfront : front = String.ofList f) (hbehind : behind = String.ofList b)
include hfront hbehind

theorem skip_gap (h : candidates f b = []) (hlines : Reads lines marks) :
    Reads ((front ++ gap ++ behind) :: lines) marks := by
  rw [Reads, readLines_cons_none (readLine_of_no_candidates hfront hbehind h gap), hlines]

theorem take_gap {kind : LineKind} (h : candidates f b = [⟨kind, f, b⟩])
    (hlines : Reads lines marks) :
    Reads ((front ++ gap ++ behind) :: lines) (⟨kind, gap⟩ :: marks) := by
  rw [Reads, readLines_cons_some (readLine_of_candidates hfront hbehind h gap), hlines]

end Reads

/-- **What stands in front of the class does not matter.** -/
theorem stateMarks_unlines {front lines : List String} {opening : String}
    (hlines : ∀ l ∈ front ++ opening :: lines, Unbroken l) {name : String}
    (hopening : readLine opening.toList = some ⟨.opening, name⟩)
    (hbehind : ∀ mark ∈ readLines lines, mark.kind ≠ .opening) :
    stateMarks (unlines (front ++ opening :: lines)) = readLines lines := by
  have hlast : readLine [] = none := by decide
  have hmarks : ((front ++ opening :: lines).map String.toList ++ [[]]).filterMap readLine =
      readLines front ++ ⟨.opening, name⟩ :: readLines lines := by
    rw [List.filterMap_append, List.filterMap_cons_none hlast, List.filterMap_nil,
      List.append_nil, List.filterMap_map, ← readLines_cons_some hopening, ← readLines_append]
    rfl
  rw [stateMarks, Text.splitOn_unlines hlines, hmarks, List.rtakeWhile, List.reverse_append,
    List.reverse_cons, List.append_assoc, List.takeWhile_append_of_pos]
  · simp
  · intro mark hmark
    simpa using hbehind mark (List.mem_reverse.1 hmark)

end DartScaffold.Dart
