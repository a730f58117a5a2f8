/-
**Placeholders in the path of a route.**

A path such as `users/{user}/posts/{post?}` has placeholders: a name between braces, made of
letters, digits and low lines of any script, with a question mark behind it if the parameter may
be left out.  Braces around anything else are plain characters.  A path is taken apart into its
placeholders and the characters between them, from left to right.

Main definitions:

* `Routing.Piece` — a character or a placeholder;
* `Routing.pieces` — the pieces of a path;
* `Routing.placeholders`, `Routing.optionalNames` — the names in it.

Main results:

* `Routing.pieces_skip` — passing over characters is leaving them out;
* `Routing.flatMap_text_pieces` — the pieces written one after another are the path.
-/

import DartScaffold.Text.Alphanumeric

set_option relaxedAutoImplicit false
set_option autoImplicit false

namespace DartScaffold.Routing

/-- A piece of a path. -/
inductive Piece where
  | char (c : Char)
  | placeholder (name : List Char) (isOptional : Bool)
deriving DecidableEq, Repr

/-- A piece as it stands in the path. -/
def Piece.text : Piece → List Char
  | .char c => [c]
  | .placeholder name isOptional =>
    '\x7b' :: name ++ (if isOptional then ['?', '\x7d'] else ['\x7d'])

/-- The placeholder at the beginning of a list of characters, if there is one. -/
def leading? : List Char → Option Piece
  | '\x7b' :: rest =>
    let name := rest.takeWhile Text.isWordChar
    if name.isEmpty then none
    else match rest.dropWhile Text.isWordChar with
      | '?' :: '\x7d' :: _ => some (.placeholder name true)
      | '\x7d' :: _ => some (.placeholder name false)
      | _ => none
  | _ => none

/-- The pieces of the characters behind the first `skip` ones. -/
def pieces : (skip : Nat) → List Char → List Piece
  | _, [] => []
  | skip + 1, _ :: rest => pieces skip rest
  | 0, c :: rest =>
    match leading? (c :: rest) with
    | some p => p :: pieces (p.text.length - 1) rest
    | none => .char c :: pieces 0 rest

/-- The names of the placeholders in order. -/
def placeholders (path : String) : List String :=
  (pieces 0 path.toList).filterMap fun
    | .placeholder name _ => some (String.ofList name)
    | .char _ => none

/-- The names of the placeholders that may be left out. -/
def optionalNames (path : String) : List String :=
  (pieces 0 path.toList).filterMap fun
    | .placeholder name true => some (String.ofList name)
    | _ => none

/-- Passing over characters is leaving them out. -/
theorem pieces_skip (n : Nat) (cs : List Char) : pieces n cs = pieces 0 (cs.drop n) := by
  induction cs generalizing n with
  | nil => simp [pieces]
  | cons c cs ih =>
    cases n with
    | zero => rfl
    | succ n => simp [pieces, ih n]

/-- A placeholder at the beginning stands there as it is written. -/
theorem eq_text_append_of_leading? {cs : List Char} {p : Piece} (h : leading? cs = some p) :
    cs = p.text ++ cs.drop p.text.length := by
  unfold leading? at h
  split at h
  · rename_i rest
    have hr : rest.takeWhile Text.isWordChar ++ rest.dropWhile Text.isWordChar = rest :=
      List.takeWhile_append_dropWhile
    simp only at h
    generalize rest.takeWhile Text.isWordChar = name at h hr
    generalize rest.dropWhile Text.isWordChar = after at h hr
    subst hr
    split at h
    · simp at h
    · split at h
      · simp only [Option.some.injEq] at h
        subst h
        simp [Piece.text]
      · simp only [Option.some.injEq] at h
        subst h
        simp [Piece.text]
      · simp at h
  · simp at h

/-- The pieces written one after another are the path. -/
theorem flatMap_text_pieces (cs : List Char) : (pieces 0 cs).flatMap Piece.text = cs := by
  induction h : cs.length using Nat.strongRecOn generalizing cs with
  | _ n ih =>
    cases cs with
    | nil => rfl
    | cons c cs =>
      simp only [pieces]
      cases hl : leading? (c :: cs) with
      | none =>
        simp only [List.flatMap_cons, Piece.text]
        rw [ih cs.length (by simp [← h]) cs rfl]
        rfl
      | some p =>
        have hp := eq_text_append_of_leading? hl
        have hpos : 0 < p.text.length := by cases p <;> simp [Piece.text]
        simp only [List.flatMap_cons]
        rw [pieces_skip, ih (cs.drop (p.text.length - 1)).length
          (by simp only [List.length_drop]; simp at h; omega) _ rfl]
        conv => rhs; rw [hp]
        congr 1
        obtain ⟨k, hk⟩ : ∃ k, p.text.length = k + 1 := ⟨p.text.length - 1, by omega⟩
        simp [hk]

end DartScaffold.Routing
