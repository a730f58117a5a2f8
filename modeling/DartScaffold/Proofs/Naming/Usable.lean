/-
**Names that may be used.**

Whatever a field or a type is to be named after, its name is one that Dart takes: a letter, then
letters and digits, and neither a reserved word nor the name of a member that every class has.  A
name in capitals may begin with a digit or be empty, and is mended like any other; a name that is
taken gets an ending that no word of the language has.  What the sanitizer was asked for before does
not matter, because an answer is remembered for requests with the same way of writing and the same
suffix only.

Main definitions:

* `Naming.isTypeName` — a letter, then letters and digits.

Main results:

* `Naming.isTypeName_fresh` — names in capitals have this shape;
* `Dart.usable_after` — **the names of fields and types may be used**, whatever was asked for
  before.
-/

import Mathlib
import DartScaffold.Proofs.Naming.Requests

set_option relaxedAutoImplicit false
set_option autoImplicit false

namespace DartScaffold

/-! ### Type names -/

namespace Naming

/-- A letter, then letters and digits. -/
def isTypeName (s : String) : Bool :=
  match s.toList with
  | [] => false
  | c :: rest => c.isAlpha && rest.all Char.isAlphanum

theorem isTypeName_iff (s : String) :
    isTypeName s = true ↔ ∃ c rest, s.toList = c :: rest ∧ c.isAlpha = true ∧
      ∀ d ∈ rest, d.isAlphanum = true := by
  unfold isTypeName
  cases s.toList with
  | nil => simp
  | cons c rest => simp

theorem isTypeName_append {s t : String} (hs : isTypeName s = true)
    (ht : ∀ c ∈ t.toList, c.isAlphanum = true) : isTypeName (s ++ t) = true := by
  obtain ⟨c, rest, hcs, hc, hrest⟩ := (isTypeName_iff s).1 hs
  refine (isTypeName_iff _).2 ⟨c, rest ++ t.toList, ?_, hc, ?_⟩
  · rw [String.toList_append, hcs, List.cons_append]
  · exact List.forall_mem_append.2 ⟨hrest, ht⟩

/-- Letters and digits make a name; a leading digit gets an `n` in front. -/
theorem isTypeName_asIdentifier {s : String} (h : ∀ c ∈ s.toList, c.isAlphanum = true) :
    isTypeName (asIdentifier s) = true := by
  unfold asIdentifier
  cases hs : s.toList with
  | nil =>
      show isTypeName "field" = true
      decide
  | cons c rest =>
      by_cases hd : c.isDigit = true
      · simp only [hd, if_true]
        exact isTypeName_append (by decide) h
      · simp only [hd]
        rw [hs] at h
        obtain ⟨hc, hrest⟩ := List.forall_mem_cons.1 h
        have hletter : c.isAlpha = true := by simpa [Char.isAlphanum, hd] using hc
        exact (isTypeName_iff s).2 ⟨c, rest, hs, hletter, hrest⟩

/-- **Names in capitals have this shape**, if what is added to a taken name has letters and digits
only. -/
theorem isTypeName_fresh (s : Sanitizer) {suffix : String}
    (h : ∀ c ∈ suffix.toList, c.isAlphanum = true) (source : String) :
    isTypeName (s.fresh .pascal suffix source) = true := by
  have hid : isTypeName (asIdentifier (Case.pascal.form source)) = true :=
    isTypeName_asIdentifier fun _ hc => isAlphanum_of_mem_pascal _ hc
  unfold Sanitizer.fresh
  by_cases ht : s.isTaken (asIdentifier (Case.pascal.form source)) = true
  · rw [if_pos ht]
    exact isTypeName_append hid h
  · rw [if_neg ht]
    exact hid

end Naming

/-! ### Fields and types -/

namespace Dart

open Naming (Names Request isMemberName isTypeName)

theorem not_taken {s : String} (h : sanitizer.isTaken s = false) :
    s ∉ keywords ∧ s ∉ memberNames := by
  rw [← not_or, ← isTaken_iff, h]
  exact Bool.false_ne_true

/-- **The names of fields and types may be used**, whatever they are made from and whatever was
asked for before, in any way of writing and with any suffix that has no low line, as the ones for
fields and types have none.  The name of a field begins with a small letter. -/
theorem usable_after (earlier : List Request) (h : ∀ r ∈ earlier, r.IsClear) (column : Datum)
    (name : String) :
    (isMemberName ((sanitizer.after earlier).field column) = true ∧
      (sanitizer.after earlier).field column ∉ keywords ∧
      (sanitizer.after earlier).field column ∉ memberNames) ∧
    (isTypeName ((sanitizer.after earlier).type name) = true ∧
      (sanitizer.after earlier).type name ∉ keywords ∧
      (sanitizer.after earlier).type name ∉ memberNames) := by
  constructor
  · obtain ⟨r, -, -, hname⟩ := Naming.Sanitizer.exists_name_after (s := sanitizer) h
      (Request.isClear_field column)
    have hfield : (sanitizer.after earlier).field column =
        sanitizer.fresh .camel "Value" r.source := hname
    rw [hfield]
    exact ⟨Naming.isMemberName_fresh sanitizer (by simp) r.source,
      not_taken (isTaken_fresh (by decide +kernel) .camel r.source)⟩
  · obtain ⟨r, -, -, hname⟩ := Naming.Sanitizer.exists_name_after (s := sanitizer) h
      (Request.isClear_type name)
    have htype : (sanitizer.after earlier).type name =
        sanitizer.fresh .pascal "Model" r.source := hname
    rw [htype]
    exact ⟨Naming.isTypeName_fresh sanitizer (by simp) r.source,
      not_taken (isTaken_fresh (by decide +kernel) .pascal r.source)⟩

example : (sanitizer.names.field (.text "2fa-Code"), sanitizer.names.field (.text "é_"),
    sanitizer.names.type "3d_model") = ("n2faCode", "field", "n3dModel") := by
  decide +kernel

/-- Names that are taken, asked of a sanitizer that was asked for the same text in other ways. -/
theorem usable_after_class :
    let earlier : List Request := [⟨"class", "class", .camel, "Model"⟩,
      ⟨"class", "class", .pascal, "Value"⟩, ⟨"class_camel", "class_camel", .camel, "Value"⟩]
    (∀ r ∈ earlier, r.IsClear) ∧
      (sanitizer.after earlier).field (.text "class") = "classValue" ∧
      isMemberName ((sanitizer.after earlier).field (.text "class")) = true ∧
      (sanitizer.after earlier).field (.text "class") ∉ keywords ∧
      (sanitizer.after earlier).type "" = "field" ∧
      isTypeName ((sanitizer.after earlier).type "") = true := by
  intro earlier
  have hclear : ∀ r ∈ earlier, r.IsClear := by decide
  obtain ⟨⟨hshape, hfree, -⟩, htype, -, -⟩ := usable_after earlier hclear (.text "class") ""
  exact ⟨hclear, by decide +kernel, hshape, hfree, by decide +kernel, htype⟩

end Dart

end DartScaffold
