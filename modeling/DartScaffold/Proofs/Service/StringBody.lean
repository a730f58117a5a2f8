/-
**Reading a text with variables.**

The path of a request is written as the body of a text in quotes.  In such a body a dollar sign
begins a variable: a name between braces, or else the longest run of letters, digits and low lines
of ASCII behind the sign.  So a variable without braces must not be followed by a character that
could belong to its name.  What the writer asks is whether a character of any script could, which
is more often than needed and never too seldom; hence every body that is written reads back as the
pieces that it was written from.

Main definitions:

* `Dart.Part`, `Dart.readBody?` — the parts of a body, and how they are read;
* `Dart.Part.ofPiece` — the part that a piece of a path is written as.

Main results:

* `Dart.readBody?_variable`, `Dart.readBody?_braced` — what is read where a variable stands;
* `Dart.readBody?_interpolatePieces` — **a path that is written reads back as its pieces**.
-/

import Mathlib
import DartScaffold.Dart.Service
import DartScaffold.Proofs.Naming.Memory
import DartScaffold.Proofs.Routing.Placeholders

set_option relaxedAutoImplicit false
set_option autoImplicit false

namespace DartScaffold.Dart

open Naming (Names isMemberName)
open Routing (Piece)

/-! ### Bodies -/

/-- A part of the body of a text: a character or a variable. -/
inductive Part where
  | char (c : Char)
  | variable (name : String)
deriving DecidableEq, Repr

/-- The name of a variable. -/
def Part.name? : Part → Option String
  | .char _ => none
  | .variable name => some name

/-- A character of a variable's name. -/
def isNameChar (c : Char) : Bool := c.isAlphanum || c == '_'

/-- A character that stands for itself in a body: no dollar sign, no quote, no backslash, and no
line break. -/
def isPlain (c : Char) : Bool :=
  c != '$' && c != '\'' && c != '\\' && c != '\n' && c != '\r'

/-- The parts of a body, if it is one. -/
def readBody? : List Char → Option (List Part)
  | [] => some []
  | '$' :: '\x7b' :: rest =>
      match _h : rest.dropWhile isNameChar with
      | '\x7d' :: after =>
          if (rest.takeWhile isNameChar).isEmpty then none
          else (readBody? after).map (.variable (String.ofList (rest.takeWhile isNameChar)) :: ·)
      | _ => none
  | '$' :: rest =>
      if (rest.takeWhile isNameChar).isEmpty then none
      else (readBody? (rest.dropWhile isNameChar)).map
        (.variable (String.ofList (rest.takeWhile isNameChar)) :: ·)
  | c :: rest => if isPlain c then (readBody? rest).map (.char c :: ·) else none
termination_by cs => cs.length
decreasing_by
  · have hle := (List.dropWhile_suffix isNameChar (l := rest)).length_le
    rw [_h] at hle
    simp only [List.length_cons] at hle ⊢
    omega
  · have hle := (List.dropWhile_suffix isNameChar (l := rest)).length_le
    simp only [List.length_cons]
    omega
  · simp

/-! ### Reading -/

theorem ne_dollar_of_isPlain {c : Char} (h : isPlain c = true) : c ≠ '$' := by
  rintro rfl
  exact absurd h (by decide)

/-- A plain character is read as itself. -/
theorem readBody?_char {c : Char} (h : isPlain c = true) (rest : List Char) :
    readBody? (c :: rest) = (readBody? rest).map (.char c :: ·) := by
  have hc := ne_dollar_of_isPlain h
  rw [readBody?.eq_4]
  · rw [if_pos h]
  · rintro tail rfl
    exact absurd rfl hc
  · exact hc

/-- A variable without braces is read as far as its name could go on. -/
theorem readBody?_variable {name rest : List Char} (hne : name ≠ [])
    (hname : ∀ c ∈ name, isNameChar c = true)
    (hrest : ∀ d, rest.head? = some d → isNameChar d = false) :
    readBody? ('$' :: name ++ rest) =
      (readBody? rest).map (.variable (String.ofList name) :: ·) := by
  obtain ⟨htake, hdrop⟩ := Routing.maximal_run _ hname hrest
  rw [List.cons_append, readBody?.eq_3]
  · rw [htake, hdrop, if_neg (by simpa using hne)]
  · -- The name does not begin with a brace.
    intro tail heq
    cases name with
    | nil => exact hne rfl
    | cons c name =>
        have hbrace : c = '\x7b' := (List.cons.inj heq).1
        have := hname c (List.mem_cons_self ..)
        rw [hbrace] at this
        exact absurd this (by decide)

/-- A variable between braces is read as far as they go. -/
theorem readBody?_braced {name : List Char} (rest : List Char) (hne : name ≠ [])
    (hname : ∀ c ∈ name, isNameChar c = true) :
    readBody? ('$' :: '\x7b' :: name ++ '\x7d' :: rest) =
      (readBody? rest).map (.variable (String.ofList name) :: ·) := by
  obtain ⟨htake, hdrop⟩ := Routing.maximal_run ('\x7d' :: rest) hname
    (by rintro d ⟨⟩; decide)
  rw [List.cons_append, List.cons_append, readBody?.eq_2]
  split
  · rename_i after heq
    rw [hdrop] at heq
    obtain ⟨-, rfl⟩ := List.cons.inj heq
    rw [htake, if_neg (by simpa using hne)]
  · rename_i hno
    exact absurd hdrop (hno rest)

/-! ### Paths -/

/-- The part that a piece of a path is written as. -/
def Part.ofPiece (names : Names) : Piece → Part
  | .char c => .char c
  | .placeholder name _ => .variable (names.field (.text (String.ofList name)))

/-- A character that is none of a word is none of a variable's name. -/
theorem isNameChar_of_not_isWordChar {c : Char} (h : Text.isWordChar c = false) :
    isNameChar c = false := by
  simp only [Text.isWordChar, Text.isAlphanumeric, Bool.or_eq_false_iff] at h
  obtain ⟨hline, halpha⟩ := h
  rw [isNameChar, hline, Bool.or_false]
  by_cases hc : c.toNat < 128
  · simpa only [hc, if_true] using halpha
  · -- Beyond ASCII there is no letter or digit of ASCII.
    by_contra hno
    have := Naming.toNat_lt_of_isAlphanum (by simpa using hno)
    omega

/-- A variable before a character of a word stands between braces. -/
theorem interpolatePieces_joined (names : Names) (name : List Char) (isOptional : Bool) {c : Char}
    (hc : Text.isWordChar c = true) (rest : List Piece) :
    interpolatePieces names (.placeholder name isOptional :: .char c :: rest) =
      '$' :: '\x7b' :: (names.field (.text (String.ofList name))).toList ++
        '\x7d' :: interpolatePieces names (.char c :: rest) := by
  show (if Text.isWordChar c = true then _ else _) ++ interpolatePieces names (.char c :: rest) = _
  rw [if_pos hc, List.append_assoc, List.singleton_append]

/-- A variable before anything else has none. -/
theorem interpolatePieces_apart (names : Names) (name : List Char) (isOptional : Bool)
    {rest : List Piece} (h : ∀ c tail, rest = .char c :: tail → Text.isWordChar c = false) :
    interpolatePieces names (.placeholder name isOptional :: rest) =
      '$' :: (names.field (.text (String.ofList name))).toList ++ interpolatePieces names rest := by
  cases rest with
  | nil => rfl
  | cons p tail =>
      cases p with
      | char c =>
          have hc : ¬ Text.isWordChar c = true := by simp [h c tail rfl]
          show (if Text.isWordChar c = true then _ else _) ++ interpolatePieces names _ = _
          rw [if_neg hc]
      | placeholder _ _ => rfl

/-- What is written for a placeholder begins with a dollar sign. -/
theorem head?_interpolatePieces_placeholder (names : Names) (name : List Char)
    (isOptional : Bool) (rest : List Piece) :
    (interpolatePieces names (.placeholder name isOptional :: rest)).head? = some '$' := by
  by_cases h : ∃ c tail, rest = .char c :: tail ∧ Text.isWordChar c = true
  · obtain ⟨c, tail, rfl, hc⟩ := h
    rw [interpolatePieces_joined names name isOptional hc, List.cons_append, List.head?_cons]
  · push Not at h
    rw [interpolatePieces_apart names name isOptional fun c tail hr => by simpa using h c tail hr,
      List.cons_append, List.head?_cons]

/-- What is written behind a variable without braces does not go on with its name. -/
theorem isNameChar_head?_interpolatePieces {names : Names} {ps : List Piece}
    (h : ∀ c tail, ps = .char c :: tail → Text.isWordChar c = false) {d : Char}
    (hd : (interpolatePieces names ps).head? = some d) : isNameChar d = false := by
  cases ps with
  | nil => simp [interpolatePieces] at hd
  | cons p rest =>
      cases p with
      | char c =>
          rw [interpolatePieces, List.head?_cons, Option.some.injEq] at hd
          exact isNameChar_of_not_isWordChar (hd ▸ h c rest rfl)
      | placeholder name isOptional =>
          rw [head?_interpolatePieces_placeholder, Option.some.injEq] at hd
          rw [← hd]
          decide

/-- **A path that is written reads back as its pieces**, if its characters are plain. -/
theorem readBody?_interpolatePieces {names : Names} (h : Learned names) {ps : List Piece}
    (hplain : ∀ c, .char c ∈ ps → isPlain c = true) :
    readBody? (interpolatePieces names ps) = some (ps.map (Part.ofPiece names)) := by
  induction ps with
  | nil => rw [interpolatePieces, readBody?.eq_1, List.map_nil]
  | cons p rest ih =>
      have ih := ih fun c hc => hplain c (List.mem_cons_of_mem _ hc)
      cases p with
      | char c =>
          rw [interpolatePieces, readBody?_char (hplain c (List.mem_cons_self ..)), ih]
          rfl
      | placeholder name isOptional =>
          have hfield := isMemberName_field h (.text (String.ofList name))
          have hne := Naming.ne_nil_of_isMemberName hfield
          have hchars : ∀ c ∈ (names.field (.text (String.ofList name))).toList,
              isNameChar c = true := by
            intro c hc
            rw [isNameChar, Naming.isAlphanum_of_isMemberName hfield c hc, Bool.true_or]
          -- The writer sets braces exactly if a character of a word follows.
          by_cases hjoined : ∃ c tail, rest = .char c :: tail ∧ Text.isWordChar c = true
          · obtain ⟨c, tail, rfl, hc⟩ := hjoined
            rw [interpolatePieces_joined names name isOptional hc, readBody?_braced _ hne hchars,
              ih, Option.map_some, String.ofList_toList]
            rfl
          · push Not at hjoined
            have hapart : ∀ c tail, rest = .char c :: tail → Text.isWordChar c = false :=
              fun c tail hr => by simpa using hjoined c tail hr
            rw [interpolatePieces_apart names name isOptional hapart, readBody?_variable hne hchars
              fun _ hd => isNameChar_head?_interpolatePieces hapart hd, ih, Option.map_some,
              String.ofList_toList]
            rfl

end DartScaffold.Dart
