/-
**What fills the templates is well nested.**

Names are made of letters and digits, so they have no brackets at all.  Declarations, expressions,
comments and paths are put together from names and from texts that the settings and the model give;
where these are well nested, so is what is put together.  A path keeps its brackets, since a
variable has braces or none where a placeholder had them.

Main definitions:

* `Settings.Nested`, `Model.Nested` — the texts that are given are well nested.

Main results:

* `Naming.plain_snake`, `Naming.plain_pascal`, `Naming.plain_title`, `Naming.plain_pluralize` — what
  is made of words has no brackets;
* `Dart.plain_type`, `Dart.plain_field` — names of types and of fields have none;
* `Dart.awaited_interpolatePieces` — **a path with variables has its brackets like the path**.
-/

import Mathlib
import DartScaffold.Proofs.Generation.Imports
import DartScaffold.Proofs.Routing.Placeholders
import DartScaffold.Proofs.Service.MethodNames
import DartScaffold.Proofs.Service.RequestPath
import DartScaffold.Proofs.Text.Nesting

set_option relaxedAutoImplicit false
set_option autoImplicit false

namespace DartScaffold

open Text (WellNested Plain awaited isBracket)

/-! ### Words -/

namespace Text

/-- A text of letters and digits. -/
theorem plain_of_isAlphanum {s : String} (h : ∀ c ∈ s.toList, c.isAlphanum = true) : Plain s :=
  fun c hc => isBracket_of_isAlphanum (h c hc)

/-- What is left of a text at its beginning. -/
theorem Plain.take {s : String} (h : Plain s) (n : Nat) :
    Plain (String.ofList (s.toList.take n)) := by
  intro c hc
  rw [String.toList_ofList] at hc
  exact h c (List.mem_of_mem_take hc)

end Text

namespace Naming

theorem plain_of_mem_words {name w : String} (h : w ∈ words name) : Plain w :=
  Text.plain_of_isAlphanum fun c hc => isAlphanum_of_isWordLetter ((mem_words h).2 c hc)

theorem plain_snake (name : String) : Plain (snake name) :=
  .join (by decide) fun _ hw => plain_of_mem_words hw

theorem plain_pascal (name : String) : Plain (pascal name) :=
  Text.plain_of_isAlphanum isAlphanum_of_mem_pascal

theorem plain_title (name : String) : Plain (title name) := by
  refine .join (by decide) fun s hs => ?_
  obtain ⟨w, hw, rfl⟩ := List.mem_map.1 hs
  exact Text.plain_of_isAlphanum (isAlphanum_of_mem_capitalize (mem_words hw).2)

theorem plain_pluralize {word : String} (h : Plain word) : Plain (pluralize word) := by
  unfold pluralize
  split_ifs
  · decide
  · exact h.append (by decide)
  · exact (h.take _).append (by decide)
  · exact h.append (by decide)

end Naming

namespace Dart

open Naming (Names)
open Routing (Reading Begins)

/-! ### Names -/

variable {c : Context} {names : Names}

theorem plain_field (h : Learned names) (d : Datum) : Plain (names.field d) :=
  Text.plain_of_isAlphanum (Naming.isAlphanum_of_isMemberName (isMemberName_field h d))

/-- The name of a type has letters and digits only. -/
theorem isAlphanum_type (h : Learned names) (source : String) :
    ∀ c ∈ (names.type source).toList, c.isAlphanum = true := by
  have hidentifier : ∀ c ∈ (Naming.asIdentifier (Naming.pascal source)).toList,
      c.isAlphanum = true := by
    unfold Naming.asIdentifier
    split
    · exact List.all_eq_true.1 (by decide)
    · split_ifs
      · rw [String.toList_append, List.forall_mem_append]
        exact ⟨List.all_eq_true.1 (by decide), fun _ => Naming.isAlphanum_of_mem_pascal _⟩
      · exact fun _ => Naming.isAlphanum_of_mem_pascal _
  rw [type_eq_fresh h]
  unfold Naming.Sanitizer.fresh
  dsimp only
  split_ifs
  · rw [String.toList_append, List.forall_mem_append]
    exact ⟨hidentifier, List.all_eq_true.1 (by decide)⟩
  · exact hidentifier

theorem plain_type (h : Learned names) (source : String) : Plain (names.type source) :=
  Text.plain_of_isAlphanum (isAlphanum_type h source)

theorem plain_mark (c : Context) : Plain c.mark := by
  unfold Context.mark
  split_ifs <;> decide

theorem plain_typeOf (t : ColumnType) : Plain (typeOf t) := by
  cases t <;> decide

/-- A comment is well nested, if what it says is. -/
theorem wellNested_comment_of_wanted {s : String} (h : WellNested s) (c : Context) (width : Nat) :
    WellNested (c.comment width s) := by
  unfold Context.comment
  split_ifs
  · exact wellNested_comment h width
  · rfl

/-! ### Fields -/

theorem wellNested_reading {mark key : String} (hmark : Plain mark) (hkey : WellNested key)
    (target : ColumnType) (nullable : Bool) :
    WellNested (Field.reading mark key target nullable) := by
  have hvalue : WellNested ("json['" ++ key ++ "']") :=
    hkey.between (d := ']') (by decide) (by decide)
  have hcast : awaited [] ("(" ++ ("json['" ++ key ++ "']") ++ " as num").toList = some [')'] := by
    rw [Text.awaited_append_of_wellNested (by decide), Text.awaited_append_of_wellNested hvalue]
    decide
  have hparse : awaited [] ("json['" ++ key ++ "']" ++ " != null ? DateTime.parse(").toList =
      some [')'] := by
    rw [Text.awaited_of_wellNested_append hvalue]
    decide
  have htype : ∀ t, WellNested ("json['" ++ key ++ "']" ++ " as " ++ typeOf t) := fun t =>
    (hvalue.append (by decide)).append (plain_typeOf t).wellNested
  unfold Field.reading
  cases nullable with
  | true =>
      cases target with
      | int | double => exact hmark.wellNested.between hcast (by decide)
      | datetime => exact hvalue.between hparse (by decide)
      | bool | json | string => exact (htype _).append hmark.wellNested
  | false =>
      cases target with
      | int | double => exact hvalue.between (d := ')') (by decide) (by decide)
      | datetime => exact hvalue.between (d := ')') (by decide) (by decide)
      | bool | json | string => exact htype _

theorem wellNested_writing {name : String} (h : Plain name) (target : ColumnType)
    (nullable : Bool) : WellNested (Field.writing name target nullable) := by
  unfold Field.writing
  split
  · exact h.wellNested.append (by decide)
  · exact h.wellNested.append (by decide)
  · exact h.wellNested

theorem wellNested_displayExpression {receiver : String} (hreceiver : Plain receiver) {f : Field}
    (hf : Plain f.name) : WellNested (displayExpression receiver f) := by
  have haccess : WellNested (receiver ++ "." ++ f.name) :=
    ((hreceiver.append (by decide)).append hf).wellNested
  unfold displayExpression
  dsimp only
  split_ifs
  · exact haccess.append (by decide)
  · exact haccess
  · exact haccess.append (by decide)

/-- A field comes from a column, and its name is one of a field. -/
theorem exists_of_mem_fields {m : Model} {f : Field} (h : f ∈ fields c m) :
    ∃ a ∈ c.included m, f = .ofAttribute c a := by
  obtain ⟨a, ha, rfl⟩ := List.mem_map.1 h
  exact ⟨a, ha, rfl⟩

theorem plain_name_of_mem_fields (hc : Learned c.names) {m : Model} {f : Field}
    (h : f ∈ fields c m) : Plain f.name := by
  obtain ⟨a, -, rfl⟩ := exists_of_mem_fields h
  exact plain_field hc a.name

/-! ### Imports -/

theorem plain_stem (m : Model) (a : Artifact) : Plain (a.stem m) := by
  have hmodel : Plain (modelStem m.className) := Naming.plain_snake m.className
  cases a with
  | dataClass => exact hmodel
  | service => exact hmodel.append (by decide)
  | widget kind => cases kind <;> exact (hmodel.append (by decide)).append (by decide)
  | screen kind =>
      cases kind <;> exact ((hmodel.append (by decide)).append (by decide)).append (by decide)
  | transport =>
      show Plain "api_service"
      decide

theorem wellNested_importPath {o : OutputSettings}
    (ho : ∀ folder : Folder, WellNested (folder.setting o).display) (own target : Folder)
    {stem : String} (hstem : Plain stem) : WellNested (importPath o own target stem) := by
  unfold importPath
  split_ifs
  · exact (hstem.append (by decide)).wellNested
  · exact ((WellNested.append (by decide) (ho target)).append (by decide)).append hstem.wellNested
      |>.append (by decide)

theorem wellNested_importLine {path : String} (h : WellNested path) :
    WellNested (importLine path) :=
  (WellNested.append (by decide) h).append (by decide)

/-- The lines of a file that import are well nested, if the folders are. -/
theorem wellNested_imports
    (hfolders : ∀ folder : Folder, WellNested (folder.setting c.settings.output).display)
    (m : Model) (a : Artifact) : ∀ line ∈ a.imports c m, WellNested line := by
  have huses : ∀ line ∈ (a.uses.map (a.pathTo c.settings.output m)).map importLine,
      WellNested line := by
    intro line hline
    obtain ⟨path, hpath, rfl⟩ := List.mem_map.1 hline
    obtain ⟨used, -, rfl⟩ := List.mem_map.1 hpath
    exact wellNested_importLine (wellNested_importPath hfolders _ _ (plain_stem m used))
  have hlines : ∀ line ∈ ["import 'package:flutter/material.dart';", ""] ++
      (a.uses.map (a.pathTo c.settings.output m)).map importLine, WellNested line := by
    refine List.forall_mem_append.2 ⟨?_, huses⟩
    simp only [List.forall_mem_cons]
    exact ⟨by decide, by decide, by simp⟩
  cases a with
  | dataClass =>
      show ∀ line ∈ (if c.settings.code.useJsonAnnotation.truthy = true
          then ["import 'package:json_annotation/json_annotation.dart';"] else []) ++
        (relatedStems m).map fun s => "import '" ++ s ++ ".dart';", WellNested line
      refine List.forall_mem_append.2 ⟨?_, ?_⟩
      · intro line hline
        split_ifs at hline
        · obtain rfl := List.mem_singleton.1 hline
          decide
        · cases hline
      · intro line hline
        obtain ⟨stem, hstem, rfl⟩ := List.mem_map.1 hline
        obtain ⟨r, -, hr⟩ := mem_relatedStems hstem
        have hplain : Plain stem := by
          rw [hr]
          exact Naming.plain_snake _
        exact (WellNested.append (by decide) hplain.wellNested).append (by decide)
  | service => exact huses
  | widget kind => cases kind <;> exact hlines
  | screen kind => cases kind <;> exact hlines
  | transport => exact fun line hline => absurd hline (List.not_mem_nil)

/-! ### Paths -/

/-- A placeholder leaves the brackets around it as they are. -/
theorem awaited_placeholder {name : List Char} (hname : ∀ d ∈ name, Text.isWordChar d = true)
    (isOptional : Bool) (waiting rest : List Char) :
    awaited waiting ((Routing.Piece.placeholder name isOptional).text ++ rest) =
      awaited waiting rest := by
  have hplain : ∀ d ∈ name, isBracket d = false := fun d hd =>
    Text.isBracket_of_isWordChar (hname d hd)
  have hend : awaited ('\x7d' :: waiting) (if isOptional then ['?', '\x7d'] else ['\x7d']) =
      some waiting := by
    cases isOptional <;> rfl
  rw [Routing.Piece.text, List.cons_append, List.cons_append, Text.awaited_cons]
  show awaited ('\x7d' :: waiting) (name ++ _ ++ rest) = _
  rw [Text.awaited_append, Text.awaited_append, Text.awaited_of_plain hplain, Option.bind_some,
    hend, Option.bind_some]

/-- Neither does a variable, with or without braces. -/
theorem awaited_variable {name : List Char} (hname : ∀ d ∈ name, isBracket d = false)
    (joined : Bool) (waiting rest : List Char) :
    awaited waiting ((if joined then '$' :: '\x7b' :: name ++ ['\x7d'] else '$' :: name) ++ rest) =
      awaited waiting rest := by
  cases joined with
  | true =>
      show awaited ('\x7d' :: waiting) (name ++ ['\x7d'] ++ rest) = _
      rw [Text.awaited_append, Text.awaited_append, Text.awaited_of_plain hname, Option.bind_some]
      rfl
  | false =>
      show awaited waiting (name ++ rest) = _
      rw [Text.awaited_append, Text.awaited_of_plain hname, Option.bind_some]

/-- **A path with variables has its brackets like the path.** -/
theorem awaited_interpolatePieces (h : Learned names) {cs : List Char} {ps : List Routing.Piece}
    (hps : Reading cs ps) (waiting : List Char) :
    awaited waiting (interpolatePieces names ps) = awaited waiting cs := by
  induction hps generalizing waiting with
  | nil => rfl
  | @placeholder cs name rest isOptional ps here _ ih =>
      obtain ⟨-, hname, hcs⟩ := here
      have hidentifier := plain_field h (.text (String.ofList name))
      have hpath : awaited waiting cs = awaited waiting rest := by
        rw [hcs]
        exact awaited_placeholder hname isOptional waiting rest
      obtain ⟨joined, hjoined⟩ : ∃ joined : Bool,
          interpolatePieces names (.placeholder name isOptional :: ps) =
            (if joined then '$' :: '\x7b' :: (names.field (.text (String.ofList name))).toList ++
                ['\x7d']
              else '$' :: (names.field (.text (String.ofList name))).toList) ++
              interpolatePieces names ps := ⟨_, rfl⟩
      rw [hjoined, awaited_variable hidentifier, ih, hpath]
  | @char ch cs ps _ _ ih =>
      rw [interpolatePieces, Text.awaited_cons, Text.awaited_cons]
      exact Option.bind_congr fun left _ => ih left

/-- A path within the interface has the brackets of the whole one. -/
theorem filter_innerPath (uri : String) :
    (innerPath uri).toList.filter isBracket = uri.toList.filter isBracket := by
  obtain ⟨slashes, rest, huri, hslashes, -, hrest⟩ := within_innerPath uri
  have hnone : slashes.filter isBracket = [] := by
    rw [List.filter_eq_nil_iff]
    intro ch hch
    rw [hslashes ch hch]
    decide
  rw [huri, List.filter_append, hnone, List.nil_append]
  have hapi : apiStart.toList.filter isBracket = [] := by decide
  rcases hrest with hrest | ⟨-, hrest⟩
  · rw [hrest, List.filter_append, hapi, List.nil_append]
  · rw [hrest]

theorem wellNested_interpolate (h : Learned names) {uri : String} (huri : WellNested uri) :
    WellNested (interpolate names uri) := by
  have hinner : WellNested (innerPath uri) := (Text.wellNested_congr (filter_innerPath uri)).2 huri
  unfold interpolate
  rw [WellNested, String.toList_ofList,
    awaited_interpolatePieces h ((Routing.reading_iff _ _).2 rfl)]
  exact hinner

/-! ### Methods -/

theorem plain_bodyNameFor (own : List Parameter) : Plain (bodyNameFor own) := by
  have hnames : ∀ name ∈ bodyNames (own.length + 1), Plain name := by
    refine List.forall_mem_cons.2 ⟨by decide, fun name hname => ?_⟩
    obtain ⟨n, -, rfl⟩ := List.mem_map.1 hname
    refine Text.Plain.append (by decide) (.join (by decide) fun s hs => ?_)
    rw [List.eq_of_mem_replicate hs]
    decide
  unfold bodyNameFor
  cases hfound : (bodyNames (own.length + 1)).find? fun name =>
      !own.any fun p => p.name == name with
  | none => decide
  | some name => exact hnames name (List.mem_of_find?_eq_some hfound)

theorem plain_freshName (h : Learned c.names) (taken : List String) (verb : String) (d : Datum) :
    Plain (freshName taken verb (c.names.field d)) := by
  have hname :=
    (chosen_freshName taken verb (c.names.field d)).isMemberName (isMemberName_field h d)
  exact Text.plain_of_isAlphanum (Naming.isAlphanum_of_isMemberName hname)

theorem plain_verbOf (r : Route) : Plain (verbOf r) := by
  have hverbs : ∀ verb ∈ transportVerbs, Plain verb := by
    simp only [transportVerbs, List.forall_mem_cons]
    exact ⟨by decide, by decide, by decide, by decide, by decide, by simp⟩
  exact hverbs _ (verbOf_mem r)

theorem wellNested_returnedType {model : String} (h : Plain model) (returned : Returned) :
    WellNested (returned.type model) := by
  cases returned with
  | one => exact h.wellNested
  | many => exact ((Text.Plain.append (by decide) h).append (by decide)).wellNested
  | success =>
      show WellNested "bool"
      decide

theorem plain_signature {m : Method} (h : ∀ p ∈ m.parameters, Plain p.type ∧ Plain p.name) :
    Plain m.signature := by
  refine .join (by decide) fun s hs => ?_
  obtain ⟨p, hp, rfl⟩ := List.mem_map.1 hs
  exact ((h p hp).1.append (by decide)).append (h p hp).2

end Dart

end DartScaffold
