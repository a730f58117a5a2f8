/-
**Columns that share a field.**

Columns are mostly named by words in small letters with low lines between them.  The field of such a
column has the words run together, each but the first with a capital, and a capital stands nowhere
else; so the words can be cut out again, and different columns have different fields.  A name that
the language takes is the only exception.  It gets the ending `Value`, and then the field is called
as that of the column whose name has one more word, `value`.

Main definitions:

* `Naming.isColumnName` — words in small letters with single low lines between them;
* `Naming.cutAtCapitals` — the words of a name that was run together.

Main results:

* `Naming.cutAtCapitals_camel`, `Naming.camel_inj` — **nothing is lost when words are run
  together**;
* `Naming.camel_append_value` — one more word;
* `Dart.field_eq_field_iff` — **which columns share a field**.
-/

import Mathlib
import DartScaffold.Proofs.Naming.Joined
import DartScaffold.Proofs.Naming.Requests

set_option relaxedAutoImplicit false
set_option autoImplicit false

namespace DartScaffold

namespace Naming

/-! ### Names of columns -/

/-- A small letter, then small letters and digits. -/
def isColumnWord : List Char → Bool
  | [] => false
  | c :: rest => c.isLower && rest.all isWordLetter

/-- One or more words in small letters with single low lines between them. -/
def isColumnName (k : String) : Bool := (k.toList.splitOn '_').all isColumnWord

variable {k k' : String} {w : List Char} {ws : List (List Char)}

theorem exists_of_isColumnWord (h : isColumnWord w = true) :
    ∃ c rest, w = c :: rest ∧ c.isLower = true ∧ ∀ d ∈ rest, isWordLetter d = true := by
  cases w with
  | nil => cases h
  | cons c rest =>
      obtain ⟨hc, hrest⟩ := Bool.and_eq_true_iff.1 h
      exact ⟨c, rest, rfl, hc, List.all_eq_true.1 hrest⟩

theorem isWordLetter_of_isColumnWord (h : isColumnWord w = true) :
    ∀ c ∈ w, isWordLetter c = true := by
  obtain ⟨c, rest, rfl, hc, hrest⟩ := exists_of_isColumnWord h
  exact List.forall_mem_cons.2 ⟨by rw [isWordLetter, hc, Bool.true_or], hrest⟩

/-- The words of a column's name are what stands between the low lines. -/
theorem wordLists_of_isColumnName (h : isColumnName k = true) :
    wordLists k.toList = k.toList.splitOn '_' := by
  have hpieces : ∀ w ∈ k.toList.splitOn '_', w ≠ [] ∧ ∀ c ∈ w, isWordLetter c = true := by
    intro w hw
    have hword := List.all_eq_true.1 h w hw
    refine ⟨?_, isWordLetter_of_isColumnWord hword⟩
    rintro rfl
    cases hword
  have hseparator : '_'.isAlphanum = false := by decide
  have hwords := wordLists_intercalate hseparator hpieces
  rwa [List.intercalate_splitOn] at hwords

/-- The words of a column's name, the first one apart. -/
theorem exists_words (h : isColumnName k = true) :
    ∃ w ws, k.toList.splitOn '_' = w :: ws ∧ wordLists k.toList = w :: ws ∧
      isColumnWord w = true ∧ ∀ v ∈ ws, isColumnWord v = true := by
  have hwords := wordLists_of_isColumnName h
  have hall := List.all_eq_true.1 h
  obtain ⟨w, ws, hpieces⟩ := List.exists_cons_of_ne_nil (List.splitOn_ne_nil '_' k.toList)
  rw [hpieces] at hwords hall
  exact ⟨w, ws, hpieces, hwords, List.forall_mem_cons.1 hall⟩

/-- One more word. -/
theorem splitOn_append_value (k : String) :
    (k ++ "_value").toList.splitOn '_' = k.toList.splitOn '_' ++ ["value".toList] := by
  rw [String.toList_append, show "_value".toList = '_' :: "value".toList by decide,
    List.splitOn_append_cons_self]
  rfl

theorem isColumnName_append_value (h : isColumnName k = true) :
    isColumnName (k ++ "_value") = true := by
  rw [isColumnName, splitOn_append_value, List.all_append, Bool.and_eq_true]
  exact ⟨h, by decide⟩

/-! ### Words that are run together -/

/-- A word with a capital at its beginning. -/
def capital : List Char → List Char
  | [] => []
  | c :: rest => c.toUpper :: rest

theorem toList_capitalize (w : String) : (capitalize w).toList = capital w.toList := by
  unfold capitalize
  cases w.toList with
  | nil => rfl
  | cons c rest => rw [String.toList_ofList, capital]

/-- The first word, and behind it further words with capitals. -/
theorem toList_camel_of_words {w : String} {ws : List String} (h : words k = w :: ws) :
    (camel k).toList = w.toList ++ (ws.map fun v => capital v.toList).flatten := by
  rw [camel, h]
  dsimp only
  rw [String.toList_append, toList_join_empty, List.map_map]
  congr 2
  exact List.map_congr_left fun v _ => toList_capitalize v

theorem toList_camel (h : wordLists k.toList = w :: ws) :
    (camel k).toList = w ++ (ws.map capital).flatten := by
  have hwords : words k = String.ofList w :: ws.map String.ofList := by
    rw [words, h, List.map_cons]
  rw [toList_camel_of_words hwords, String.toList_ofList, List.map_map]
  congr 2
  refine List.map_congr_left fun v _ => ?_
  rw [Function.comp_apply, String.toList_ofList]

/-- The words of a name that was run together: every capital begins one. -/
def cutAtCapitals : List Char → List (List Char)
  | [] => [[]]
  | c :: rest =>
    if c.isUpper then [] :: (cutAtCapitals rest).modifyHead (c.toLower :: ·)
    else (cutAtCapitals rest).modifyHead (c :: ·)

/-- What has no capitals is not cut. -/
theorem cutAtCapitals_append (h : ∀ c ∈ w, isWordLetter c = true) (rest : List Char) :
    cutAtCapitals (w ++ rest) = (cutAtCapitals rest).modifyHead (w ++ ·) := by
  induction w with
  | nil =>
      show cutAtCapitals rest = (cutAtCapitals rest).modifyHead id
      rw [List.modifyHead_id]
      rfl
  | cons c w ih =>
      obtain ⟨hc, hw⟩ := List.forall_mem_cons.1 h
      rw [List.cons_append, cutAtCapitals, if_neg (not_isUpper_of_isWordLetter hc), ih hw,
        List.modifyHead_modifyHead]
      rfl

/-- A word with a capital is cut off. -/
theorem cutAtCapitals_capital (h : isColumnWord w = true) (rest : List Char) :
    cutAtCapitals (capital w ++ rest) = [] :: (cutAtCapitals rest).modifyHead (w ++ ·) := by
  obtain ⟨c, more, rfl, hc, hmore⟩ := exists_of_isColumnWord h
  have hupper : c.toUpper.isUpper = true := by
    rw [Char.isUpper_toUpper_eq_isAlpha, Char.isAlpha, hc, Bool.or_true]
  have hlower : c.toUpper.toLower = c := by
    rw [Char.toLower_toUpper_eq_toLower, Char.toLower_eq_of_not_isUpper
      (Char.not_isUpper_of_isLower hc)]
  rw [capital, List.cons_append, cutAtCapitals, if_pos hupper, hlower,
    cutAtCapitals_append hmore, List.modifyHead_modifyHead]
  rfl

theorem cutAtCapitals_flatten (h : ∀ w ∈ ws, isColumnWord w = true) :
    cutAtCapitals (ws.map capital).flatten = [] :: ws := by
  induction ws with
  | nil => rfl
  | cons w ws ih =>
      obtain ⟨hw, hws⟩ := List.forall_mem_cons.1 h
      rw [List.map_cons, List.flatten_cons, cutAtCapitals_capital hw, ih hws,
        List.modifyHead_cons, List.append_nil]

/-- **The words can be cut out again.** -/
theorem cutAtCapitals_camel (h : isColumnName k = true) :
    cutAtCapitals (camel k).toList = k.toList.splitOn '_' := by
  obtain ⟨w, ws, hpieces, hwords, hw, hws⟩ := exists_words h
  rw [hpieces, toList_camel hwords, cutAtCapitals_append (isWordLetter_of_isColumnWord hw),
    cutAtCapitals_flatten hws, List.modifyHead_cons, List.append_nil]

/-- **Nothing is lost when the words of a column's name are run together.** -/
theorem camel_inj (hk : isColumnName k = true) (hk' : isColumnName k' = true) :
    camel k = camel k' ↔ k = k' := by
  refine ⟨fun h => String.toList_injective ?_, fun h => congrArg camel h⟩
  calc k.toList = ['_'].intercalate (k.toList.splitOn '_') := (List.intercalate_splitOn '_').symm
    _ = ['_'].intercalate (k'.toList.splitOn '_') := by
      rw [← cutAtCapitals_camel hk, h, cutAtCapitals_camel hk']
    _ = k'.toList := List.intercalate_splitOn '_'

theorem camel_append_value (h : isColumnName k = true) :
    camel (k ++ "_value") = camel k ++ "Value" := by
  obtain ⟨w, ws, hpieces, hwords, -, -⟩ := exists_words h
  have hmore := wordLists_of_isColumnName (isColumnName_append_value h)
  rw [splitOn_append_value, hpieces, List.cons_append] at hmore
  refine String.toList_injective ?_
  rw [String.toList_append, toList_camel hwords, toList_camel hmore, List.map_append,
    List.flatten_append, List.append_assoc]
  rfl

/-- The words run together begin with a small letter, so they need no mending. -/
theorem asIdentifier_camel (h : isColumnName k = true) : asIdentifier (camel k) = camel k := by
  obtain ⟨w, ws, -, hwords, hw, -⟩ := exists_words h
  obtain ⟨c, rest, rfl, hc, -⟩ := exists_of_isColumnWord hw
  have hdigit : ¬c.isDigit = true := Bool.eq_false_iff.1 (not_isDigit_of_isLower hc)
  rw [asIdentifier, toList_camel hwords, List.cons_append]
  exact if_neg hdigit

end Naming

/-! ### Fields -/

namespace Dart

open Naming (Request isColumnName camel)

variable {k k' : String}

theorem fresh_of_isColumnName (h : isColumnName k = true) :
    sanitizer.fresh .camel "Value" k =
      if sanitizer.isTaken (camel k) then camel k ++ "Value" else camel k := by
  show (if sanitizer.isTaken (Naming.asIdentifier (camel k)) then
    Naming.asIdentifier (camel k) ++ "Value" else Naming.asIdentifier (camel k)) = _
  rw [Naming.asIdentifier_camel h]

/-- A taken name is called as the column with one more word, and as no other. -/
theorem camel_append_eq_iff (hk : isColumnName k = true) (hk' : isColumnName k' = true) :
    camel k ++ "Value" = camel k' ↔ k' = k ++ "_value" := by
  rw [← Naming.camel_append_value hk, Naming.camel_inj (Naming.isColumnName_append_value hk) hk',
    eq_comm]

/-- **Which columns share a field**: one whose name is taken by the language when its words are run
together, and the one with the further word `value`.  What was asked for before does not matter. -/
theorem field_eq_field_iff {earlier : List Request}
    (hearlier : ∀ r ∈ earlier, r.IsClear ∧ r.shown = r.source) (hk : isColumnName k = true)
    (hk' : isColumnName k' = true) (hne : k ≠ k') :
    (sanitizer.after earlier).field (.text k) = (sanitizer.after earlier).field (.text k') ↔
      ((camel k ∈ keywords ∨ camel k ∈ memberNames) ∧ k' = k ++ "_value") ∨
      ((camel k' ∈ keywords ∨ camel k' ∈ memberNames) ∧ k = k' ++ "_value") := by
  have hfield : ∀ {k}, isColumnName k = true → (sanitizer.after earlier).field (.text k) =
      if sanitizer.isTaken (camel k) then camel k ++ "Value" else camel k := by
    intro k hk
    have hsource : (Request.field (.text k)).shown = (Request.field (.text k)).source :=
      (Naming.source_text k).symm
    have hname := Naming.Sanitizer.name_after (s := sanitizer) hearlier
      (Request.isClear_field (.text k)) hsource
    rw [← fresh_of_isColumnName hk]
    exact hname.trans (congrArg (sanitizer.fresh .camel "Value") hsource.symm)
  have hfree : ∀ k, sanitizer.isTaken (camel k ++ "Value") = false :=
    fun k => isTaken_append_ending (by decide) (camel k)
  rw [hfield hk, hfield hk', ← isTaken_iff, ← isTaken_iff]
  cases ht : sanitizer.isTaken (camel k) with
  | false =>
      cases ht' : sanitizer.isTaken (camel k') with
      | false => simp [Naming.camel_inj hk hk', hne]
      | true => simp [eq_comm (a := camel k), camel_append_eq_iff hk' hk]
  | true =>
      cases ht' : sanitizer.isTaken (camel k') with
      | false => simp [camel_append_eq_iff hk hk']
      | true =>
          -- Neither name is the other one with an ending, since such a name is free.
          have hlonger : k' ≠ k ++ "_value" := by
            intro h
            rw [← camel_append_eq_iff hk hk'] at h
            rw [← h, hfree] at ht'
            cases ht'
          have hshorter : k ≠ k' ++ "_value" := by
            intro h
            rw [← camel_append_eq_iff hk' hk] at h
            rw [← h, hfree] at ht
            cases ht
          simp [Naming.camel_inj hk hk', hne, hlonger, hshorter]

example : isColumnName "user_2fa" = false ∧ isColumnName "a__b" = false ∧
    isColumnName "" = false ∧ isColumnName "line_item2" = true := by decide +kernel

/-- The columns `default` and `default_value` share a field, also when the first one was asked for
before. -/
theorem field_eq_field_iff_default :
    let earlier : List Request := [.field (.text "default"), .field (.text "value")]
    (∀ r ∈ earlier, r.IsClear ∧ r.shown = r.source) ∧ isColumnName "default" = true ∧
      isColumnName "default_value" = true ∧ "default" ≠ "default_value" ∧
      camel "default" ∈ keywords ∧
      (sanitizer.after earlier).field (.text "default") =
        (sanitizer.after earlier).field (.text "default_value") := by
  intro earlier
  have hearlier : ∀ r ∈ earlier, r.IsClear ∧ r.shown = r.source := by
    simp only [earlier, List.forall_mem_cons]
    exact ⟨⟨Request.isClear_field _, (Naming.source_text _).symm⟩,
      ⟨Request.isClear_field _, (Naming.source_text _).symm⟩, List.forall_mem_nil _⟩
  have htaken : camel "default" ∈ keywords := by decide +kernel
  have hname : isColumnName "default" = true := by decide +kernel
  have hlonger : isColumnName "default_value" = true := by decide +kernel
  exact ⟨hearlier, hname, hlonger, by decide, htaken,
    (field_eq_field_iff hearlier hname hlonger (by decide)).2 (.inl ⟨.inl htaken, rfl⟩)⟩

end Dart

end DartScaffold
