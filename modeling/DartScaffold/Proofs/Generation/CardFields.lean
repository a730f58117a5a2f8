/-
**The fields on a card.**

A card shows one field of its model first, and perhaps another one second.  For each there are
names in an order of preference, and the field whose name comes first among those that the model
has is taken.  If the model has none of the names for the first field, a text takes its place, or
whatever the first column is; without a name for the second field there is none.  A field that is
shown first is passed over when the second is looked for.  So the two are different fields of the
model, and as long as names decide, it does not matter in which order the columns come.

Main definitions:

* `Dart.IsPreferred` — the field among some whose name comes first in an order of preference;
* `Dart.IsFirstWith` — the first field of a kind;
* `Dart.IsPrimary`, `Dart.IsSecondary` — the fields to be shown first and second.

Main results:

* `Dart.fieldNamed?_eq_some_iff`, `Dart.findSome?_eq_some_iff_isPreferred` — looking for a name,
  and for names in order;
* `Dart.primaryField_eq_some_iff`, `Dart.secondaryField_eq_some_iff` — the two choices;
* `Dart.card_perm` — the order of the columns does not matter as long as names decide;
* `Dart.card_fields` — **which fields a card shows**.
-/

import Mathlib
import DartScaffold.Dart.Widget
import DartScaffold.Proofs.Occurrences

set_option relaxedAutoImplicit false
set_option autoImplicit false

namespace DartScaffold.Dart

variable {fs gs : List Field} {f g : Field} {names : List String}

/-! ### Preferences -/

/-- Among some fields, the one whose name comes first in an order of preference. -/
structure IsPreferred (names : List String) (Among : Field → Prop) (f : Field) : Prop where
  among : Among f
  first : ∃ before name after, names = before ++ name :: after ∧ f.jsonKey = .text name ∧
    ∀ g, Among g → ∀ other ∈ before, g.jsonKey ≠ .text other

/-- Some field has one of the names. -/
def HasAny (names : List String) (Among : Field → Prop) : Prop :=
  ∃ f, Among f ∧ ∃ name ∈ names, f.jsonKey = .text name

/-- The first of some fields that is of a kind. -/
def IsFirstWith (Kind : Field → Prop) (fs : List Field) (f : Field) : Prop :=
  Kind f ∧ ∃ before after, fs = before ++ f :: after ∧ ∀ g ∈ before, ¬Kind g

/-- A text that is not the `id`. -/
def IsLabel (f : Field) : Prop := f.target = .string ∧ f.jsonKey ≠ .text "id"

/-- The field to be shown first: by its name, or else a text, or else the first column. -/
inductive IsPrimary (fs : List Field) (f : Field) : Prop
  | named (h : IsPreferred ["name", "title", "email", "username"] (· ∈ fs) f)
  | label (unnamed : ¬HasAny ["name", "title", "email", "username"] (· ∈ fs))
      (h : IsFirstWith IsLabel fs f)
  | leading (unnamed : ¬HasAny ["name", "title", "email", "username"] (· ∈ fs))
      (unlabelled : ∀ g ∈ fs, ¬IsLabel g) (h : fs.head? = some f)

/-- The fields that are left for the second place. -/
def IsLeft (fs : List Field) (primary : Option Field) (f : Field) : Prop :=
  f ∈ fs ∧ ∀ p, primary = some p → f.jsonKey ≠ p.jsonKey

/-- The field to be shown second: by its name, among those that are left. -/
def IsSecondary (fs : List Field) (primary : Option Field) (f : Field) : Prop :=
  IsPreferred ["description", "email", "phone", "created_at"] (IsLeft fs primary) f

/-! ### Looking for names -/

/-- Looking for a name finds the field that has it. -/
theorem fieldNamed?_eq_some_iff (hfs : (fs.map Field.jsonKey).Nodup) (name : String)
    (f : Field) : fieldNamed? fs name = some f ↔ f ∈ fs ∧ f.jsonKey = .text name := by
  have hfound : ∀ {g}, fieldNamed? fs name = some g → g.jsonKey = .text name := by
    intro g hg
    have hsame := List.find?_some hg
    exact (Datum.same_text_iff _ _).1 hsame
  constructor
  · intro h
    exact ⟨mem_of_fieldNamed? h, hfound h⟩
  · rintro ⟨hf, hname⟩
    -- Some field is found, and only one has the name.
    obtain ⟨g, hg⟩ : ∃ g, fieldNamed? fs name = some g := by
      rw [← Option.isSome_iff_exists, fieldNamed?, List.find?_isSome]
      exact ⟨f, List.mem_reverse.2 hf, (Datum.same_text_iff _ _).2 hname⟩
    have hkey : g.jsonKey = f.jsonKey := (hfound hg).trans hname.symm
    rw [hg, List.inj_on_of_nodup_map hfs (mem_of_fieldNamed? hg) hf hkey]

section Search

variable {find : String → Option Field} {Among : Field → Prop}

/-- **Looking for names in order** finds the preferred field, if looking for one name finds the
field that has it. -/
theorem findSome?_eq_some_iff_isPreferred
    (hfind : ∀ name f, find name = some f ↔ Among f ∧ f.jsonKey = .text name) :
    names.findSome? find = some f ↔ IsPreferred names Among f := by
  have hnone : ∀ name, find name = none ↔ ∀ g, Among g → g.jsonKey ≠ .text name := by
    intro name
    rw [Option.eq_none_iff_forall_ne_some]
    exact forall_congr' fun g => by rw [ne_eq, hfind, not_and]
  rw [List.findSome?_eq_some_iff]
  constructor
  · rintro ⟨before, name, after, rfl, hname, hbefore⟩
    obtain ⟨hamong, hkey⟩ := (hfind name f).1 hname
    refine ⟨hamong, before, name, after, rfl, hkey, fun g hg other hother => ?_⟩
    exact (hnone other).1 (hbefore other hother) g hg
  · rintro ⟨hamong, before, name, after, rfl, hkey, hbefore⟩
    refine ⟨before, name, after, rfl, (hfind name f).2 ⟨hamong, hkey⟩, fun other hother => ?_⟩
    exact (hnone other).2 fun g hg => hbefore g hg other hother

/-- It finds nothing if no field has one of the names. -/
theorem findSome?_eq_none_iff_hasAny
    (hfind : ∀ name f, find name = some f ↔ Among f ∧ f.jsonKey = .text name) :
    names.findSome? find = none ↔ ¬HasAny names Among := by
  rw [List.findSome?_eq_none_iff]
  constructor
  · rintro h ⟨f, hamong, name, hname, hkey⟩
    have hfound := (hfind name f).2 ⟨hamong, hkey⟩
    rw [h name hname] at hfound
    cases hfound
  · intro h name hname
    rw [Option.eq_none_iff_forall_ne_some]
    intro f hfound
    obtain ⟨hamong, hkey⟩ := (hfind name f).1 hfound
    exact h ⟨f, hamong, name, hname, hkey⟩

end Search

/-! ### The two choices -/

theorem isLabel_iff : (f.isText && !f.jsonKey.same (.text "id")) = true ↔ IsLabel f := by
  rw [Bool.and_eq_true, Field.isText, beq_iff_eq, Bool.not_eq_true', Bool.eq_false_iff, ne_eq,
    Datum.same_text_iff]
  rfl

theorem find?_isLabel_eq_some_iff :
    (fs.find? fun f => f.isText && !f.jsonKey.same (.text "id")) = some f ↔
      IsFirstWith IsLabel fs f := by
  rw [List.find?_eq_some_iff_append, isLabel_iff]
  simp only [Bool.not_eq_true', Bool.eq_false_iff, ne_eq, isLabel_iff]
  rfl

theorem find?_isLabel_eq_none_iff :
    (fs.find? fun f => f.isText && !f.jsonKey.same (.text "id")) = none ↔
      ∀ g ∈ fs, ¬IsLabel g := by
  simp only [List.find?_eq_none, isLabel_iff]

/-- **The field to be shown first.** -/
theorem primaryField_eq_some_iff (hfs : (fs.map Field.jsonKey).Nodup) :
    primaryField fs = some f ↔ IsPrimary fs f := by
  have hfind := fieldNamed?_eq_some_iff hfs
  rw [primaryField, Option.or_eq_some_iff, Option.or_eq_some_iff, find?_isLabel_eq_some_iff,
    find?_isLabel_eq_none_iff, findSome?_eq_some_iff_isPreferred hfind,
    findSome?_eq_none_iff_hasAny hfind]
  constructor
  · rintro (h | ⟨hnone, h | ⟨hno, h⟩⟩)
    · exact .named h
    · exact .label hnone h
    · exact .leading hnone hno h
  · rintro (h | ⟨hnone, h⟩ | ⟨hnone, hno, h⟩)
    · exact .inl h
    · exact .inr ⟨hnone, .inl h⟩
    · exact .inr ⟨hnone, .inr ⟨hno, h⟩⟩

/-- Looking for a name, with the field that is shown first passed over. -/
theorem fieldNamed?_left_eq_some_iff (hfs : (fs.map Field.jsonKey).Nodup)
    (primary : Option Field) (name : String) (f : Field) :
    (if primary.any fun p => p.jsonKey.same (.text name) then none else fieldNamed? fs name) =
      some f ↔ IsLeft fs primary f ∧ f.jsonKey = .text name := by
  cases primary with
  | none => simp [IsLeft, fieldNamed?_eq_some_iff hfs]
  | some p =>
      rw [Option.any_some]
      by_cases hp : p.jsonKey = .text name
      · -- The name is that of the field shown first, which is passed over.
        rw [if_pos ((Datum.same_text_iff _ _).2 hp)]
        refine ⟨nofun, ?_⟩
        rintro ⟨⟨-, hne⟩, hkey⟩
        exact absurd (hkey.trans hp.symm) (hne p rfl)
      · rw [if_neg (mt (Datum.same_text_iff _ _).1 hp), fieldNamed?_eq_some_iff hfs]
        constructor
        · rintro ⟨hf, hkey⟩
          refine ⟨⟨hf, ?_⟩, hkey⟩
          rintro _ ⟨⟩ hsame
          exact hp (hsame.symm.trans hkey)
        · rintro ⟨⟨hf, -⟩, hkey⟩
          exact ⟨hf, hkey⟩

/-- **The field to be shown second.** -/
theorem secondaryField_eq_some_iff (hfs : (fs.map Field.jsonKey).Nodup) {primary : Option Field} :
    secondaryField fs primary = some g ↔ IsSecondary fs primary g :=
  findSome?_eq_some_iff_isPreferred (fieldNamed?_left_eq_some_iff hfs primary)

theorem secondaryField_eq_none_iff (hfs : (fs.map Field.jsonKey).Nodup) {primary : Option Field} :
    secondaryField fs primary = none ↔
      ¬HasAny ["description", "email", "phone", "created_at"] (IsLeft fs primary) :=
  findSome?_eq_none_iff_hasAny (fieldNamed?_left_eq_some_iff hfs primary)

/-! ### The card -/

/-- If names decide, the order of the columns does not matter. -/
theorem card_perm (hfs : (fs.map Field.jsonKey).Nodup)
    (hnamed : HasAny ["name", "title", "email", "username"] (· ∈ fs)) (hperm : gs.Perm fs) :
    primaryField gs = primaryField fs ∧
      secondaryField gs (primaryField gs) = secondaryField fs (primaryField fs) := by
  have hgs : (gs.map Field.jsonKey).Nodup := (hperm.map Field.jsonKey).nodup_iff.2 hfs
  have hfind := fieldNamed?_eq_some_iff hfs
  have hmem : (· ∈ gs) = (· ∈ fs) := funext fun f => propext hperm.mem_iff
  have hprimary : primaryField gs = primaryField fs := by
    -- Names decide, and the same field has the preferred one.
    have hsome : (primaryNames.findSome? (fieldNamed? fs)).isSome := by
      rw [Option.isSome_iff_ne_none, ne_eq, findSome?_eq_none_iff_hasAny hfind]
      exact not_not_intro hnamed
    obtain ⟨f, hf⟩ := Option.isSome_iff_exists.1 hsome
    have hpreferred := (findSome?_eq_some_iff_isPreferred hfind).1 hf
    rw [(primaryField_eq_some_iff hfs).2 (.named hpreferred), primaryField_eq_some_iff hgs]
    exact .named (hmem ▸ hpreferred)
  refine ⟨hprimary, ?_⟩
  have hleft : IsLeft gs (primaryField fs) = IsLeft fs (primaryField fs) :=
    funext fun f => propext (and_congr_left' hperm.mem_iff)
  rw [hprimary]
  refine Option.ext fun g => ?_
  rw [secondaryField_eq_some_iff hgs, secondaryField_eq_some_iff hfs, IsSecondary, hleft]
  rfl

/-- What is shown second is a field of the model, and not the one that is shown first. -/
theorem secondaryField_isLeft (hfs : (fs.map Field.jsonKey).Nodup) {primary : Option Field}
    (h : secondaryField fs primary = some g) : IsLeft fs primary g :=
  ((secondaryField_eq_some_iff hfs).1 h).among

/-- **Which fields a card shows.**  First comes the field with the preferred name, or else the first
text that is not the `id`, or else the first field, and only without fields there is none; second
comes the field with the preferred name among the others.  Both are among the fields, they never
coincide, and if a name decides which comes first, the order of the fields does not matter. -/
theorem card_fields (hfs : (fs.map Field.jsonKey).Nodup) :
    (∀ f, primaryField fs = some f ↔ IsPrimary fs f) ∧
      (primaryField fs = none ↔ fs = []) ∧
      (∀ g, secondaryField fs (primaryField fs) = some g ↔ IsSecondary fs (primaryField fs) g) ∧
      (secondaryField fs (primaryField fs) = none ↔
        ¬HasAny ["description", "email", "phone", "created_at"] (IsLeft fs (primaryField fs))) ∧
      (∀ f, primaryField fs = some f → f ∈ fs) ∧
      (∀ g, secondaryField fs (primaryField fs) = some g →
        g ∈ fs ∧ ∀ f, primaryField fs = some f → g.jsonKey ≠ f.jsonKey) ∧
      (HasAny ["name", "title", "email", "username"] (· ∈ fs) → ∀ gs : List Field, gs.Perm fs →
        primaryField gs = primaryField fs ∧
          secondaryField gs (primaryField gs) = secondaryField fs (primaryField fs)) :=
  ⟨fun _ => primaryField_eq_some_iff hfs, primaryField_eq_none_iff fs,
    fun _ => secondaryField_eq_some_iff hfs, secondaryField_eq_none_iff hfs,
    fun _ => primaryField_mem, fun _ => secondaryField_isLeft hfs,
    fun hnamed _ hperm => card_perm hfs hnamed hperm⟩

/-- A field with a name and a type. -/
def sampleField (name : String) (target : ColumnType) : Field :=
  { (default : Field) with jsonKey := .text name, target := target }

/-- Fields of which one could come first or second. -/
def contactFields : List Field := [
  sampleField "id" .int, sampleField "phone" .string, sampleField "email" .string,
  sampleField "created_at" .datetime]

/-- It comes first, and then another one second, in whatever order the columns are. -/
theorem card_fields_contact :
    (contactFields.map Field.jsonKey).Nodup ∧
      ∀ gs : List Field, gs.Perm contactFields →
        primaryField gs = some (sampleField "email" .string) ∧
          secondaryField gs (primaryField gs) = some (sampleField "phone" .string) := by
  have hfs : (contactFields.map Field.jsonKey).Nodup := by
    simp [contactFields, sampleField]
  have hprimary : primaryField contactFields = some (sampleField "email" .string) := rfl
  have hsecondary : secondaryField contactFields (primaryField contactFields) =
      some (sampleField "phone" .string) := rfl
  obtain ⟨-, -, -, -, -, -, hperm⟩ := card_fields hfs
  refine ⟨hfs, fun gs hgs => ?_⟩
  have hnamed : HasAny ["name", "title", "email", "username"] (· ∈ contactFields) :=
    ⟨sampleField "email" .string, by simp [contactFields], "email", by simp, rfl⟩
  obtain ⟨hfirst, hsecond⟩ := hperm hnamed gs hgs
  exact ⟨hfirst.trans hprimary, hsecond.trans hsecondary⟩

end DartScaffold.Dart
