/-
**Texts whose tags close only what is open.**

A text with markup is read from left to right; a tag opens a style or closes one, and whether a
bracket begins a tag at all depends on the backslashes in front of it.  A piece of text that is put
into another one may have opened styles, and may end in a backslash, without anything being wrong
with it.  So it is said of a text that it fits behind another one, whatever more that one has left
open.  A piece in which no slash follows a bracket closes nothing, and fits anywhere.

Main definitions:

* `Text.Markup.Fits` — a text that closes nothing but what is open in front of it;
* `Text.Markup.IsStyle` — a name that a tag can be made of;
* `Text.Markup.ClosesNone` — a text without a bracket and a slash behind it.

Main results:

* `Text.Markup.Fits.plain`, `Text.Markup.Fits.opening`, `Text.Markup.Fits.closing` — what may stand
  in front of a text that fits;
* `Text.Markup.Fits.closesNone` — **a piece that closes nothing may stand anywhere**.
-/

import Mathlib
import DartScaffold.Text.Markup

set_option relaxedAutoImplicit false
set_option autoImplicit false

namespace DartScaffold.Text.Markup

variable {c : Char} {cs rest name tag : List Char} {opened : List (List Char)} {escaped : Bool}

/-! ### Tags -/

theorem head?_of_tag? (h : tag? cs = some tag) : tag.head? = cs.head? := by
  cases cs with
  | nil => cases h
  | cons c cs =>
      rw [tag?] at h
      split at h
      · obtain ⟨more, -, rfl⟩ := Option.map_eq_some_iff.1 h
        rfl
      · cases h

/-- A tag without a slash in front opens a style. -/
theorem afterTag?_of_ne_slash (h : tag.head? ≠ some '/') :
    afterTag? opened tag = some (styleOf tag :: opened) := by
  unfold afterTag?
  split
  · exact absurd rfl h
  · rfl

/-- A character that means nothing in markup by itself. -/
def isPlain (c : Char) : Bool := c != '[' && c != '\\'

/-- A name that a tag can be made of: it begins as one, and nothing in it ends the tag or the
name. -/
structure IsStyle (name : List Char) : Prop where
  begins : name.head?.any (fun c => beginsTag c && c != '/') = true
  plain : name.all isPlain = true
  unended : name.all (fun c => c != ']' && c != '=') = true

instance : DecidablePred IsStyle := fun name =>
  decidable_of_iff (name.head?.any (fun c => beginsTag c && c != '/') = true ∧
      name.all isPlain = true ∧ name.all (fun c => c != ']' && c != '=') = true)
    ⟨fun ⟨hbegins, hplain, hunended⟩ => ⟨hbegins, hplain, hunended⟩,
      fun h => ⟨h.begins, h.plain, h.unended⟩⟩

theorem upToBracket?_append (h : ∀ c ∈ cs, c ≠ '[' ∧ c ≠ ']') :
    upToBracket? (cs ++ ']' :: rest) = some cs := by
  induction cs with
  | nil => rfl
  | cons c cs ih =>
      obtain ⟨hopen, hclose⟩ := h c (List.mem_cons_self ..)
      rw [List.cons_append, upToBracket?, if_neg hclose, if_neg hopen,
        ih fun d hd => h d (List.mem_cons_of_mem _ hd)]
      rfl

namespace IsStyle

variable (h : IsStyle name)

include h

theorem exists_eq_cons : ∃ c cs, name = c :: cs ∧ beginsTag c = true ∧ c ≠ '/' := by
  obtain ⟨c, hc, hbegins⟩ := (Option.any_eq_true _ _).1 h.begins
  obtain ⟨cs, hname⟩ := List.head?_eq_some_iff.1 hc
  rw [Bool.and_eq_true, bne_iff_ne] at hbegins
  exact ⟨c, cs, hname, hbegins⟩

theorem ne_brackets : ∀ c ∈ name, c ≠ '[' ∧ c ≠ ']' := by
  intro c hc
  have hplain := List.all_eq_true.1 h.plain c hc
  have hunended := List.all_eq_true.1 h.unended c hc
  simp only [isPlain, Bool.and_eq_true, bne_iff_ne] at hplain hunended
  exact ⟨hplain.1, hunended.1⟩

theorem styleOf_eq : styleOf name = name := by
  unfold styleOf
  rw [List.takeWhile_eq_self_iff]
  intro c hc
  have hunended := List.all_eq_true.1 h.unended c hc
  exact (Bool.and_eq_true_iff.1 hunended).2

theorem tag?_append : tag? (name ++ ']' :: rest) = some name := by
  have hplain := h.ne_brackets
  obtain ⟨c, cs, rfl, hbegins, -⟩ := h.exists_eq_cons
  rw [List.cons_append, tag?, if_pos hbegins,
    upToBracket?_append fun d hd => hplain d (List.mem_cons_of_mem _ hd)]
  rfl

theorem tag?_slash : tag? ('/' :: (name ++ ']' :: rest)) = some ('/' :: name) := by
  rw [tag?, if_pos (by decide), upToBracket?_append h.ne_brackets]
  rfl

theorem afterTag?_eq : afterTag? opened name = some (name :: opened) := by
  rw [afterTag?_of_ne_slash, h.styleOf_eq]
  obtain ⟨c, cs, rfl, -, hne⟩ := h.exists_eq_cons
  simpa using hne

end IsStyle

/-! ### What may stand in front of a text -/

/-- A text closes nothing but what is open in front of it, and if more is open, too. -/
def Fits (escaped : Bool) (opened : List (List Char)) (cs : List Char) : Prop :=
  ∀ more, opened.Subperm more → unmatched? escaped more cs = none

namespace Fits

theorem nil : Fits escaped opened [] := fun _ _ => rfl

theorem isInOrder {s : String} (h : Fits false [] s.toList) : IsInOrder s :=
  h [] (List.Subperm.refl _)

/-- A character that means nothing ends a row of backslashes. -/
theorem cons (hc : isPlain c = true) (h : Fits false opened rest) :
    Fits escaped opened (c :: rest) := by
  obtain ⟨hbracket, hslash⟩ : c ≠ '[' ∧ c ≠ '\\' := by simpa [isPlain] using hc
  intro more hmore
  rw [unmatched?, if_neg hslash, if_neg fun h => hbracket h.1]
  exact h more hmore

/-- So does a text of such characters. -/
theorem plain (hcs : cs.all isPlain = true) (hne : cs ≠ []) (h : Fits false opened rest) :
    Fits escaped opened (cs ++ rest) := by
  induction cs generalizing escaped with
  | nil => exact absurd rfl hne
  | cons c cs ih =>
      obtain ⟨hc, hcs⟩ := Bool.and_eq_true_iff.1 (List.all_cons ▸ hcs)
      refine cons hc ?_
      by_cases hnil : cs = []
      · rw [hnil]
        exact h
      · exact ih hcs hnil

/-- The characters of a tag behind its bracket mean nothing by themselves. -/
theorem insideTag (hname : IsStyle name) (h : Fits false opened rest) :
    Fits false opened (name ++ ']' :: rest) := by
  refine plain hname.plain ?_ (h.cons (by decide))
  obtain ⟨c, cs, rfl, -⟩ := hname.exists_eq_cons
  exact List.cons_ne_nil c cs

/-- A style is opened. -/
theorem opening (hname : IsStyle name) (h : Fits false (name :: opened) rest) :
    Fits false opened ('[' :: (name ++ ']' :: rest)) := by
  intro more hmore
  rw [unmatched?, if_neg (by decide), if_pos ⟨rfl, rfl⟩, hname.tag?_append]
  dsimp only
  rw [hname.afterTag?_eq]
  exact h.insideTag hname _ ((List.subperm_cons name).2 hmore)

/-- A style is closed, unless a backslash in front of the tag takes its meaning away. -/
theorem closing (hname : IsStyle name) (h : Fits false opened rest) :
    Fits escaped (name :: opened) ('[' :: '/' :: (name ++ ']' :: rest)) := by
  have hinside : Fits false opened ('/' :: (name ++ ']' :: rest)) :=
    .cons (by decide) (h.insideTag hname)
  intro more hmore
  rw [unmatched?, if_neg (by decide)]
  cases escaped with
  | true =>
      rw [if_neg (by decide)]
      exact hinside more ((List.sublist_cons_self name opened).subperm.trans hmore)
  | false =>
      have hmem : name ∈ more := hmore.subset (List.mem_cons_self ..)
      rw [if_pos ⟨rfl, rfl⟩, hname.tag?_slash]
      dsimp only
      rw [afterTag?, hname.styleOf_eq, if_pos hmem]
      have hrest := hmore.erase name
      rw [List.erase_cons_head] at hrest
      exact hinside _ hrest

/-- **A piece in which no slash follows a bracket closes nothing.**  It may stand in front of any
text that does not begin with a slash and fits there whether or not there are backslashes. -/
theorem closesNone (hcs : ¬ ['[', '/'] <:+: cs) (hrest : rest.head? ≠ some '/')
    (h : ∀ escaped, Fits escaped opened rest) : Fits escaped opened (cs ++ rest) := by
  -- The styles that are opened on the way are more than there have to be.
  induction cs generalizing escaped opened with
  | nil => exact h escaped
  | cons c cs ih =>
      have hcs' : ¬ ['[', '/'] <:+: cs := fun hpart =>
        hcs (hpart.trans (List.suffix_cons c cs).isInfix)
      intro more hmore
      rw [List.cons_append, unmatched?]
      split
      · exact ih hcs' h more hmore
      split
      · next hbracket =>
          have hhead : (cs ++ rest).head? ≠ some '/' := by
            cases cs with
            | nil => exact hrest
            | cons d cs =>
                rintro ⟨⟩
                rw [hbracket.1] at hcs
                exact hcs ⟨[], cs, rfl⟩
          cases htag : tag? (cs ++ rest) with
          | none => exact ih hcs' h more hmore
          | some tag =>
              dsimp only
              rw [afterTag?_of_ne_slash (head?_of_tag? htag ▸ hhead)]
              exact ih hcs' h _ (hmore.trans (List.sublist_cons_self ..).subperm)
      · exact ih hcs' h more hmore

end Fits

/-! ### Pieces that close nothing -/

/-- There is no bracket with a slash behind it. -/
def ClosesNone (s : String) : Prop := ¬ ['[', '/'] <:+: s.toList

instance : DecidablePred ClosesNone := fun s =>
  decidable_of_iff (¬ ['[', '/'] <:+: s.toList) Iff.rfl

theorem ClosesNone.isInOrder {s : String} (h : ClosesNone s) : IsInOrder s := by
  refine Fits.isInOrder ?_
  rw [← List.append_nil s.toList]
  exact .closesNone h (by simp) fun _ => .nil

theorem ClosesNone.of_not_mem {s : String} (h : '[' ∉ s.toList) : ClosesNone s :=
  fun hpart => h (hpart.subset (List.mem_cons_self ..))

/-- A number closes nothing. -/
theorem ClosesNone.toString_nat (n : Nat) : ClosesNone (toString n) := by
  refine .of_not_mem fun hmem => ?_
  have hdigit := Nat.isDigit_of_mem_toDigits (by omega) (by omega) (Nat.toList_repr ▸ hmem)
  exact absurd hdigit (by decide)

end DartScaffold.Text.Markup
