/-
**What fills the templates with and without documentation.**

Two contexts differ in whether documentation is wanted.  Data classes, services, widgets and screens
are the same in both then, but where there is a comment in one of them there may be none in the
other.  What else goes into a file stays on one line, if the names of columns and the paths of
further routes do, and what may stand at the beginning of a line does not begin with a slash.  Only
imports may have several lines, as the folders of the settings have, and none of these may look like
a comment.  So what fills the templates in both contexts is paired.

Main definitions:

* `Model.OneLined` — the texts of a model that are given stay on one line each;
* `Dart.Artifact.ClearImports` — no line of an import looks like a comment;
* `Dart.Context.documented` — the context in which documentation is wanted or not;
* `Dart.Field.pairing`, `Dart.DataClass.pairing`, `Dart.Service.pairing`, `Dart.Widget.pairing`,
  `Dart.Screen.pairing` — what is known about the records;
* `Dart.Artifact.pairings` — what is known about what fills the template of a file.

Main results:

* `Dart.isNote_comment` — a comment is one, or there is none;
* `Dart.clearImports_of_unbroken` — imports are clear, if the folders stay on one line each;
* `Dart.resembles_scope` — **templates are filled with paired values**.
-/

import DartScaffold.Proofs.Generation.FormText
import DartScaffold.Proofs.Template.SideBySide

set_option relaxedAutoImplicit false
set_option autoImplicit false

namespace DartScaffold

open Text (Unbroken)
open Template (Mild IsNote Pairing Pairings PairedMembers Resembles paired_text paired_texts
  paired_flag paired_map paired_optional paired_record)

/-! ### What is given -/

/-- The texts of a model that go into files as they are, apart from comments, stay on one line each:
the names of its columns and the paths of its further routes. -/
structure Model.OneLined (m : Model) : Prop where
  columns : ∀ column ∈ m.attributes, Unbroken column.2.name.display
  routes : ∀ r ∈ m.customRoutes, Unbroken r.uri

/-- The settings under which documentation is wanted, or not. -/
def Settings.documented (s : Settings) (d : Datum) : Settings :=
  { s with code := { s.code with documentation := d } }

namespace Dart

/-- The context in which documentation is wanted, or not. -/
def Context.documented (c : Context) (d : Datum) : Context :=
  { c with settings := c.settings.documented d }

variable {c : Context} {m : Model} {off on : Datum}

/-! ### Comments -/

/-- A comment is one, or there is none. -/
theorem isNote_comment (c : Context) (width : Nat) (s : String) : IsNote (c.comment width s) := by
  intro hne
  have hcomment : c.comment width s = comment width s := by
    unfold Context.comment at hne ⊢
    split_ifs with hwanted
    · rfl
    · rw [if_neg hwanted] at hne
      exact absurd rfl hne
  rw [hcomment] at hne ⊢
  have hs : s ≠ "" := by
    rintro rfl
    exact hne (comment_empty width)
  exact ⟨commentLines width s, comment_append_newline hs, fun note hnote =>
    ⟨(isSolid_commentLines width s note hnote).1, isComment_of_mem_commentLines hnote⟩⟩

/-- Where documentation is not wanted there is no comment, and in the same place there may be one
where it is. -/
theorem paired_comment (hoff : off.truthy = false) (c : Context) (width : Nat) (s : String) :
    (Template.Value.text ((c.documented off).comment width s)).Paired .note
      (.text ((c.documented on).comment width s)) := by
  rw [Context.comment_of_not_wanted (c := c.documented off) hoff]
  exact .note (isNote_comment _ _ _)

/-! ### Words -/

theorem mild_type (hc : Learned c.names) (source : String) : Mild (c.names.type source) :=
  Template.mild_of_isAlphanum (isAlphanum_type hc source)

theorem mild_field (hc : Learned c.names) (d : Datum) : Mild (c.names.field d) :=
  Template.mild_of_isAlphanum (Naming.isAlphanum_of_isMemberName (isMemberName_field hc d))

theorem mild_pascal (name : String) : Mild (Naming.pascal name) :=
  Template.mild_of_isAlphanum Naming.isAlphanum_of_mem_pascal

theorem mild_typeOf (t : ColumnType) : Mild (typeOf t) := by
  cases t <;> exact .of_chars rfl (by decide)

theorem mild_mark (c : Context) : Mild c.mark := by
  unfold Context.mark
  split_ifs <;> exact .of_chars rfl (by decide)

/-- The plural of a word stays on one line. -/
theorem unbroken_pluralize {word : String} (h : Unbroken word) :
    Unbroken (Naming.pluralize word) := by
  have hpart : ∀ n, Unbroken (String.ofList (word.toList.take n)) := by
    intro n
    rw [Unbroken, String.toList_ofList]
    exact fun hbreak => h (List.mem_of_mem_take hbreak)
  unfold Naming.pluralize
  split_ifs
  · decide
  · exact h.append (by decide)
  · exact (hpart _).append (by decide)
  · exact h.append (by decide)

/-! ### Fields -/

/-- What is known about a field. -/
def Field.pairing : Pairing := .record [
  ("name", .mild), ("json_key", .line), ("dart_type", .mild), ("target_type", .unknown),
  ("nullable", .mild), ("type_annotation", .mild), ("copy_with_type", .mild),
  ("from_json", .line), ("to_json", .line), ("label", .line), ("required", .mild),
  ("control", .unknown), ("is_numeric", .mild), ("is_string", .mild)]

theorem paired_field (hc : Learned c.names) (hm : m.OneLined) {f : Field} (hf : f ∈ fields c m) :
    f.value.Paired Field.pairing f.value := by
  obtain ⟨a, ha, rfl⟩ := exists_of_mem_fields hf
  obtain ⟨name, hcolumn, -⟩ := (Context.mem_included c m a).1 ha
  have hkey : Unbroken a.name.display := hm.columns (name, a) hcolumn
  have hname : Mild (c.names.field a.name) := mild_field hc a.name
  have hcopied : Mild (typeOf a.target ++ c.mark) := (mild_typeOf _).append (mild_mark c)
  have hdeclared : Mild (Field.ofAttribute c a).declared := by
    show Mild (if a.nullable then typeOf a.target ++ c.mark else typeOf a.target)
    split_ifs
    · exact hcopied
    · exact mild_typeOf _
  refine paired_record (by decide +kernel) ?_
  exact .cons (paired_text hname) <|
    .cons (.line hkey) <|
    .cons (paired_text (mild_typeOf _)) <|
    .cons (.unknown _ _) <|
    .cons (paired_flag _) <|
    .cons (paired_text hdeclared) <|
    .cons (paired_text hcopied) <|
    .cons (.line (unbroken_reading (mild_mark c).unbroken hkey _ _)) <|
    .cons (.line (unbroken_writing hname.unbroken _ _)) <|
    .cons (.line (unbroken_title _)) <|
    .cons (paired_flag _) <|
    .cons (.unknown _ _) <|
    .cons (paired_flag _) <|
    .cons (paired_flag _) .nil

theorem mild_name_of_mem_fields (hc : Learned c.names) {f : Field} (hf : f ∈ fields c m) :
    Mild f.name := by
  obtain ⟨a, -, rfl⟩ := exists_of_mem_fields hf
  exact mild_field hc a.name

theorem unbroken_label_of_mem_fields {f : Field} (hf : f ∈ fields c m) : Unbroken f.label := by
  obtain ⟨a, -, rfl⟩ := exists_of_mem_fields hf
  exact unbroken_title _

theorem unbroken_displayExpression {f : Field} (hf : Unbroken f.name) :
    Unbroken (displayExpression "item" f) := by
  have haccess : Unbroken ("item" ++ "." ++ f.name) := .append (by decide) hf
  unfold displayExpression
  dsimp only
  split_ifs
  · exact haccess.append (by decide)
  · exact haccess
  · exact haccess.append (by decide)

/-! ### Imports -/

theorem unbroken_stem (m : Model) (a : Artifact) : Unbroken (a.stem m) := by
  have hmodel : Unbroken (modelStem m.className) := unbroken_modelStem m.className
  cases a with
  | dataClass => exact hmodel
  | service => exact hmodel.append (by decide)
  | widget kind => cases kind <;> exact (hmodel.append (by decide)).append (by decide)
  | screen kind =>
      cases kind <;> exact ((hmodel.append (by decide)).append (by decide)).append (by decide)
  | transport =>
      show Unbroken "api_service"
      decide

theorem mild_importLine {path : String} (h : Unbroken path) : Mild (importLine path) := by
  have hbegin : Mild "import '" := .of_chars rfl (by decide)
  rw [importLine, String.append_assoc]
  exact hbegin.append_of_isVisible (by decide) (h.append (by decide))

/-- No line of an import looks like a comment. -/
def Artifact.ClearImports (settings : Settings) (m : Model) (a : Artifact) : Prop :=
  ∀ line ∈ a.imports ⟨settings, sanitizer.names⟩ m, ∀ row ∈ rows line, isComment row = false

/-- The lines of a file that import stay on one line each and begin with a word, if the folders
stay on one line each. -/
theorem mild_imports
    (hfolders : ∀ folder : Folder, Unbroken (folder.setting c.settings.output).display)
    (m : Model) (a : Artifact) : ∀ line ∈ a.imports c m, Mild line := by
  have hpath : ∀ own target stem, Unbroken stem →
      Unbroken (importPath c.settings.output own target stem) := by
    intro own target stem hstem
    unfold importPath
    split_ifs
    · exact hstem.append (by decide)
    · exact (((Unbroken.append (by decide) (hfolders target)).append (by decide)).append
        hstem).append (by decide)
  have huses : ∀ line ∈ (a.uses.map (a.pathTo c.settings.output m)).map importLine, Mild line := by
    intro line hline
    obtain ⟨path, hpath', rfl⟩ := List.mem_map.1 hline
    obtain ⟨used, -, rfl⟩ := List.mem_map.1 hpath'
    exact mild_importLine (hpath _ _ _ (unbroken_stem m used))
  have hlines : ∀ line ∈ ["import 'package:flutter/material.dart';", ""] ++
      (a.uses.map (a.pathTo c.settings.output m)).map importLine, Mild line := by
    refine List.forall_mem_append.2 ⟨?_, huses⟩
    simp only [List.forall_mem_cons]
    exact ⟨.of_chars rfl (by decide), .of_chars rfl (by decide), by simp⟩
  cases a with
  | dataClass =>
      show ∀ line ∈ (if c.settings.code.useJsonAnnotation.truthy = true
          then ["import 'package:json_annotation/json_annotation.dart';"] else []) ++
        (relatedStems m).map fun s => "import '" ++ s ++ ".dart';", Mild line
      refine List.forall_mem_append.2 ⟨?_, ?_⟩
      · intro line hline
        split_ifs at hline
        · obtain rfl := List.mem_singleton.1 hline
          exact .of_chars rfl (by decide)
        · cases hline
      · intro line hline
        obtain ⟨stem, hstem, rfl⟩ := List.mem_map.1 hline
        obtain ⟨r, -, hr⟩ := mem_relatedStems hstem
        have hstem : Unbroken stem := by
          rw [hr]
          exact unbroken_modelStem _
        have hbegin : Mild "import '" := .of_chars rfl (by decide)
        rw [String.append_assoc]
        exact hbegin.append_of_isVisible (by decide) (hstem.append (by decide))
  | service => exact huses
  | widget kind => cases kind <;> exact hlines
  | screen kind => cases kind <;> exact hlines
  | transport => exact fun line hline => absurd hline (List.not_mem_nil)

theorem clearImports_of_unbroken {settings : Settings}
    (hfolders : ∀ folder : Folder, Unbroken (folder.setting settings.output).display) (m : Model)
    (a : Artifact) : a.ClearImports settings m := by
  intro line hline row hrow
  have hmild := mild_imports (c := ⟨settings, sanitizer.names⟩) hfolders m a line hline
  rw [rows, List.splitOn_eq_singleton hmild.unbroken, List.mem_singleton] at hrow
  rw [hrow]
  exact isComment_of_isMild hmild.mild

/-! ### Data classes -/

/-- What is known about a data class. -/
def DataClass.pairing : Pairing := .record [
  ("class_name", .mild), ("fields", .list Field.pairing), ("imports", .list .lines),
  ("part_directive", .mild), ("use_json_annotation", .tested), ("required_keyword", .mild),
  ("doc", .note), ("field_names", .unknown), ("to_string_body", .line)]

theorem paired_dataClass (hoff : off.truthy = false) (hc : Learned c.names)
    (hi : Artifact.dataClass.ClearImports c.settings m) (hm : m.OneLined) :
    (dataClass (c.documented off) m).value.Paired DataClass.pairing
      (dataClass (c.documented on) m).value := by
  have hpart : ∀ t, (dataClass c m).part? = some t → Mild t := by
    intro t ht
    have hbegin : Mild "part '" := .of_chars rfl (by decide)
    change (if c.settings.code.useJsonAnnotation.truthy
      then some ("part '" ++ modelStem m.className ++ ".g.dart';") else none) = some t at ht
    split_ifs at ht
    rw [← Option.some.inj ht, String.append_assoc]
    exact hbegin.append_of_isVisible (by decide) ((unbroken_modelStem _).append (by decide))
  have hword : Mild (dataClass c m).requiredWord := by
    show Mild (if c.nullSafe then "required " else "")
    split_ifs <;> exact .of_chars rfl (by decide)
  have hbody : Unbroken (dataClass c m).shownFields := by
    refine .join (by decide) fun s hs => ?_
    obtain ⟨f, hf, rfl⟩ := List.mem_map.1 hs
    have hf := (mild_name_of_mem_fields hc hf).unbroken
    exact (hf.append (by decide)).append hf
  refine paired_record (by decide +kernel) ?_
  exact .cons (paired_text (mild_type hc m.className)) <|
    .cons (paired_map fun f hf => paired_field hc hm hf) <|
    .cons (paired_texts hi) <|
    .cons (paired_optional hpart) <|
    .cons (.tested _) <|
    .cons (paired_text hword) <|
    .cons (paired_comment hoff c 0 _) <|
    .cons (.unknown _ _) <|
    .cons (.line hbody) .nil

/-! ### Services -/

/-- A method without its comment. -/
def Method.silent (f : Method) : Method := { f with comment := "" }

theorem usualMethods_documented (hoff : off.truthy = false) (c : Context) (model : String) :
    usualMethods (c.documented off) model =
      (usualMethods (c.documented on) model).map Method.silent := by
  have hnone := Context.comment_of_not_wanted (c := c.documented off) hoff
  simp only [usualMethods, hnone]
  rfl

theorem customMethods_documented (hoff : off.truthy = false) (c : Context) (model : String)
    (taken : List String) (routes : List Route) :
    customMethods (c.documented off) model taken routes =
      (customMethods (c.documented on) model taken routes).map Method.silent := by
  have hmethod : ∀ taken r, customMethod (c.documented off) model taken r =
      (customMethod (c.documented on) model taken r).silent := by
    intro taken r
    have hnone := Context.comment_of_not_wanted (c := c.documented off) hoff
    simp only [customMethod, hnone]
    rfl
  induction routes generalizing taken with
  | nil => rfl
  | cons r rest ih =>
      show customMethod (c.documented off) model taken r :: customMethods (c.documented off) model
          ((customMethod (c.documented off) model taken r).name :: taken) rest = _
      rw [hmethod, ih]
      rfl

/-- The methods of a service without documentation. -/
theorem methods_documented (hoff : off.truthy = false) (c : Context) (m : Model) :
    (service (c.documented off) m).methods =
      (service (c.documented on) m).methods.map Method.silent := by
  show usualMethods (c.documented off) (c.typeName m) ++
      customMethods (c.documented off) (c.typeName m) usualNames m.customRoutes = _
  rw [usualMethods_documented hoff, customMethods_documented hoff, ← List.map_append]
  rfl

/-- The parts of a method stay on their lines. -/
structure Method.OneLined (f : Method) : Prop where
  name : Unbroken f.name
  kind : Mild f.kind
  returnType : Unbroken f.returnType
  comment : IsNote f.comment
  verb : Unbroken f.verb
  path : Unbroken f.path
  bodyName : Mild f.bodyName
  signature : Unbroken f.signature

/-- What is known about a method. -/
def Method.pairing : Pairing := .record [
  ("name", .line), ("kind", .mild), ("return_type", .line), ("returns", .mild),
  ("doc", .note), ("parameters", .unknown), ("verb", .line), ("path", .line),
  ("has_body", .mild), ("body_name", .mild), ("signature", .line)]

theorem Method.OneLined.paired {f : Method} (h : f.OneLined) :
    f.silent.value.Paired Method.pairing f.value := by
  have hreturns : Mild f.returned.name := by
    cases f.returned <;> exact .of_chars rfl (by decide)
  refine paired_record (by decide +kernel) ?_
  exact .cons (.line h.name) <|
    .cons (paired_text h.kind) <|
    .cons (.line h.returnType) <|
    .cons (paired_text hreturns) <|
    .cons (.note h.comment) <|
    .cons (.unknown _ _) <|
    .cons (.line h.verb) <|
    .cons (.line h.path) <|
    .cons (paired_flag _) <|
    .cons (paired_text h.bodyName) <|
    .cons (.line h.signature) .nil

theorem unbroken_returnedType {model : String} (h : Unbroken model) (returned : Returned) :
    Unbroken (returned.type model) := by
  cases returned with
  | one => exact h
  | many => exact (Unbroken.append (by decide) h).append (by decide)
  | success =>
      show Unbroken "bool"
      decide

theorem unbroken_signature {f : Method}
    (h : ∀ p ∈ f.parameters, Unbroken p.type ∧ Unbroken p.name) : Unbroken f.signature := by
  refine .join (by decide) fun s hs => ?_
  obtain ⟨p, hp, rfl⟩ := List.mem_map.1 hs
  exact ((h p hp).1.append (by decide)).append (h p hp).2

theorem oneLined_usualMethods (c : Context) {model : String} (h : Unbroken model) :
    ∀ f ∈ usualMethods c model, f.OneLined := by
  have hid : ∀ p ∈ [idParameter], Unbroken p.type ∧ Unbroken p.name := by
    simp only [List.forall_mem_cons]
    exact ⟨by decide, by simp⟩
  have hdata : ∀ p ∈ [bodyParameter "data"], Unbroken p.type ∧ Unbroken p.name := by
    simp only [List.forall_mem_cons]
    exact ⟨by decide, by simp⟩
  have hboth := List.forall_mem_append.2 ⟨hid, hdata⟩
  have hbody : Mild "data" := .of_chars rfl (by decide)
  simp only [usualMethods, List.forall_mem_cons]
  refine ⟨?all, ?one, ?create, ?update, ?delete, by simp⟩
  case all =>
    exact ⟨show Unbroken "getAll" by decide, .of_chars rfl (by decide),
      unbroken_returnedType h .many, isNote_comment _ _ _, show Unbroken "get" by decide,
      show Unbroken "" by decide, hbody, unbroken_signature (List.forall_mem_nil _)⟩
  case one =>
    exact ⟨show Unbroken "getById" by decide, .of_chars rfl (by decide), h,
      isNote_comment _ _ _, show Unbroken "get" by decide, show Unbroken "" by decide, hbody,
      unbroken_signature hid⟩
  case create =>
    exact ⟨show Unbroken "create" by decide, .of_chars rfl (by decide), h,
      isNote_comment _ _ _, show Unbroken "post" by decide, show Unbroken "" by decide, hbody,
      unbroken_signature hdata⟩
  case update =>
    exact ⟨show Unbroken "update" by decide, .of_chars rfl (by decide), h,
      isNote_comment _ _ _, show Unbroken "put" by decide, show Unbroken "" by decide, hbody,
      unbroken_signature hboth⟩
  case delete =>
    exact ⟨show Unbroken "delete" by decide, .of_chars rfl (by decide),
      show Unbroken "bool" by decide, isNote_comment _ _ _, show Unbroken "delete" by decide,
      show Unbroken "" by decide, hbody, unbroken_signature hid⟩

/-- A path with variables breaks where the path does. -/
theorem mem_interpolatePieces {names : Naming.Names} (h : Learned names) {cs : List Char}
    {ps : List Routing.Piece} (hps : Routing.Reading cs ps)
    (hbreak : '\n' ∈ interpolatePieces names ps) : '\n' ∈ cs := by
  induction hps with
  | nil => cases hbreak
  | @placeholder cs name rest isOptional ps here _ ih =>
      obtain ⟨-, -, hcs⟩ := here
      have hidentifier := unbroken_field h (.text (String.ofList name))
      obtain ⟨joined, hjoined⟩ : ∃ joined : Bool,
          interpolatePieces names (.placeholder name isOptional :: ps) =
            (if joined then '$' :: '\x7b' :: (names.field (.text (String.ofList name))).toList ++
                ['\x7d']
              else '$' :: (names.field (.text (String.ofList name))).toList) ++
              interpolatePieces names ps := ⟨_, rfl⟩
      rw [hjoined, List.mem_append] at hbreak
      rcases hbreak with hbreak | hbreak
      · refine absurd ?_ hidentifier
        cases joined <;> simpa using hbreak
      · rw [hcs]
        exact List.mem_append_right _ (ih hbreak)
  | @char ch cs ps _ _ ih =>
      rw [interpolatePieces, List.mem_cons] at hbreak
      exact List.mem_cons.2 (hbreak.imp_right ih)

theorem unbroken_interpolate {names : Naming.Names} (h : Learned names) {uri : String}
    (huri : Unbroken uri) : Unbroken (interpolate names uri) := by
  intro hbreak
  rw [interpolate, String.toList_ofList] at hbreak
  exact huri (mem_of_mem_within (within_innerPath uri)
    (mem_interpolatePieces h ((Routing.reading_iff _ _).2 rfl) hbreak))

theorem mild_bodyNameFor (own : List Parameter) : Mild (bodyNameFor own) := by
  have hdata : Mild "data" := .of_chars rfl (by decide)
  have hbody : Mild "body" := .of_chars rfl (by decide)
  have hnames : ∀ name ∈ bodyNames (own.length + 1), Mild name := by
    refine List.forall_mem_cons.2 ⟨hdata, fun name hname => ?_⟩
    obtain ⟨n, -, rfl⟩ := List.mem_map.1 hname
    refine hbody.append_of_isVisible (by decide) (.join (by decide) fun s hs => ?_)
    rw [List.eq_of_mem_replicate hs]
    decide
  unfold bodyNameFor
  cases hfound : (bodyNames (own.length + 1)).find? fun name =>
      !own.any fun p => p.name == name with
  | none => exact hdata
  | some name => exact hnames name (List.mem_of_find?_eq_some hfound)

theorem oneLined_customMethod (hc : Learned c.names) {model : String} (h : Unbroken model)
    (taken : List String) {r : Route} (hr : Unbroken r.uri) :
    (customMethod c model taken r).OneLined := by
  have hname := (chosen_freshName taken (verbOf r)
    (c.names.field (.text r.endpoint.tag))).isMemberName (isMemberName_field hc _)
  have hverbs : ∀ verb ∈ transportVerbs, Unbroken verb := by
    simp only [transportVerbs, List.forall_mem_cons]
    exact ⟨by decide, by decide, by decide, by decide, by decide, by simp⟩
  have hbodyName : Mild (customMethod c model taken r).bodyName := by
    show Mild (if bodyVerbs.contains (verbOf r) then bodyNameFor (pathParameters c.names r)
      else "data")
    split_ifs
    · exact mild_bodyNameFor _
    · exact .of_chars rfl (by decide)
  have hown : ∀ p ∈ pathParameters c.names r, Unbroken p.type ∧ Unbroken p.name := by
    intro p hp
    obtain ⟨parameter, -, rfl⟩ := List.mem_map.1 hp
    refine ⟨?_, unbroken_field hc _⟩
    show Unbroken (parameterTypeOf parameter.type)
    cases parameter.type <;> decide
  refine ⟨Text.unbroken_of_isAlphanum (Naming.isAlphanum_of_isMemberName hname),
    show Mild "custom" from .of_chars rfl (by decide), unbroken_returnedType h _,
    isNote_comment _ _ _, hverbs _ (verbOf_mem r), unbroken_interpolate hc hr, hbodyName,
    unbroken_signature (List.forall_mem_append.2 ⟨hown, fun p hp => ?_⟩)⟩
  split_ifs at hp
  · obtain rfl := List.mem_singleton.1 hp
    exact ⟨show Unbroken "Map<String, dynamic>" by decide, (mild_bodyNameFor _).unbroken⟩
  · cases hp

theorem oneLined_customMethods (hc : Learned c.names) {model : String} (h : Unbroken model)
    (taken : List String) {routes : List Route} (hroutes : ∀ r ∈ routes, Unbroken r.uri) :
    ∀ f ∈ customMethods c model taken routes, f.OneLined := by
  induction routes generalizing taken with
  | nil => simp [customMethods]
  | cons r rest ih =>
      refine List.forall_mem_cons.2 ⟨?_, ?_⟩
      · exact oneLined_customMethod hc h taken (hroutes r (List.mem_cons_self ..))
      · exact ih _ fun q hq => hroutes q (List.mem_cons_of_mem _ hq)

/-- What is known about a service. -/
def Service.pairing : Pairing := .record [
  ("class_name", .mild), ("model_class", .mild), ("endpoint", .line),
  ("imports", .list .lines), ("methods", .list Method.pairing), ("nullable_suffix", .mild),
  ("doc", .note), ("method_names", .unknown), ("custom_methods", .unknown)]

theorem paired_service (hoff : off.truthy = false) (hc : Learned c.names)
    (hi : Artifact.service.ClearImports c.settings m) (hm : m.OneLined) :
    (service (c.documented off) m).value.Paired Service.pairing
      (service (c.documented on) m).value := by
  have hmodel : Mild (c.typeName m) := mild_type hc m.className
  have hname : Mild (c.typeName m ++ "Service") := hmodel.append (.of_chars rfl (by decide))
  have hendpoint : Unbroken (Context.endpoint m) := unbroken_pluralize (unbroken_modelStem _)
  have honeLined : ∀ f ∈ (service (c.documented on) m).methods, f.OneLined :=
    List.forall_mem_append.2 ⟨oneLined_usualMethods _ hmodel.unbroken,
      oneLined_customMethods (c := c.documented on) hc hmodel.unbroken usualNames hm.routes⟩
  have hmethods : (Template.Value.list ((service (c.documented off) m).methods.map
      Method.value)).Paired (.list Method.pairing)
      (.list ((service (c.documented on) m).methods.map Method.value)) := by
    rw [methods_documented hoff, List.map_map]
    exact paired_map fun f hf => (honeLined f hf).paired
  refine paired_record (by decide +kernel) ?_
  exact .cons (paired_text hname) <|
    .cons (paired_text hmodel) <|
    .cons (.line hendpoint) <|
    .cons (paired_texts hi) <|
    .cons hmethods <|
    .cons (paired_text (mild_mark c)) <|
    .cons (paired_comment hoff c 0 _) <|
    .cons (.unknown _ _) <|
    .cons (.unknown _ _) .nil

/-! ### Widgets -/

/-- What is known about a control. -/
def Control.pairing : Pairing := .record [
  ("field", Field.pairing), ("kind", .mild), ("state_name", .mild), ("picker_name", .line),
  ("validator_message", .line), ("uses_controller", .mild)]

theorem paired_control (hc : Learned c.names) (hm : m.OneLined) {f : Field}
    (hf : f ∈ fields c m) :
    (controlFor f).value.Paired Control.pairing (controlFor f).value := by
  have hname : Mild f.name := mild_name_of_mem_fields hc hf
  have hunderscore : Mild "_" := .of_chars rfl (by decide)
  have hkind : Mild (controlFor f).kind := by
    show Mild (controlOf f.target)
    cases f.target <;> exact .of_chars rfl (by decide)
  have hstate : Mild (controlFor f).stateName := by
    show Mild (if f.control = "toggle" then "_" ++ f.name else "_" ++ f.name ++ "Controller")
    split_ifs
    · exact hunderscore.append hname
    · exact (hunderscore.append hname).append (.of_chars rfl (by decide))
  have hpicker : Unbroken (controlFor f).pickerName := by
    show Unbroken (if f.control = "date" then "_select" ++ Naming.pascal (Naming.source f.jsonKey)
      else "")
    split_ifs
    · exact .append (by decide) (unbroken_pascal _)
    · decide
  have hmessage : Unbroken (controlFor f).message := by
    show Unbroken (if f.required then "Please enter " ++ f.label else "")
    split_ifs
    · exact .append (by decide) (unbroken_label_of_mem_fields hf)
    · decide
  refine paired_record (by decide +kernel) ?_
  exact .cons (paired_field hc hm hf) <|
    .cons (paired_text hkind) <|
    .cons (paired_text hstate) <|
    .cons (.line hpicker) <|
    .cons (.line hmessage) <|
    .cons (paired_flag _) .nil

/-- What is known about a widget. -/
def Widget.pairing : Pairing := .record [
  ("widget_type", .unknown), ("class_name", .mild), ("model_class", .mild),
  ("imports", .list .lines), ("controls", .list Control.pairing), ("primary", .unknown),
  ("secondary", .unknown), ("primary_expression", .line), ("secondary_expression", .line),
  ("nullable_suffix", .mild), ("doc", .note), ("control_names", .unknown)]

theorem paired_widget (hoff : off.truthy = false) (hc : Learned c.names) {kind : WidgetKind}
    (hi : (Artifact.widget kind).ClearImports c.settings m) (hm : m.OneLined) :
    (widget (c.documented off) m kind).value.Paired Widget.pairing
      (widget (c.documented on) m kind).value := by
  have hmodel : Mild (c.typeName m) := mild_type hc m.className
  have hcontrols : (Template.Value.list ((widget c m kind).controls.map Control.value)).Paired
      (.list Control.pairing) (.list ((widget c m kind).controls.map Control.value)) := by
    refine paired_map fun control hcontrol => ?_
    change control ∈ (if kind = .form then (inputFields c m).map controlFor else []) at hcontrol
    split_ifs at hcontrol
    · obtain ⟨f, hf, rfl⟩ := List.mem_map.1 hcontrol
      exact paired_control hc hm (List.mem_filter.1 hf).1
    · cases hcontrol
  have hfields : ∀ f ∈ (if kind = .card then fields c m else []), Unbroken f.name := by
    intro f hf
    split_ifs at hf
    · exact (mild_name_of_mem_fields hc hf).unbroken
    · cases hf
  have hprimary : Unbroken (widget c m kind).primaryText := by
    show Unbroken (if kind = .card then ((widget c m kind).primary.map
      (displayExpression "item")).getD ("'" ++ c.typeName m ++ "'") else "")
    split_ifs
    · cases hp : (widget c m kind).primary with
      | none => exact (Unbroken.append (by decide) hmodel.unbroken).append (by decide)
      | some f => exact unbroken_displayExpression (hfields f (primaryField_mem hp))
    · decide
  have hsecondary : Unbroken (widget c m kind).secondaryText := by
    show Unbroken (((widget c m kind).secondary.map (displayExpression "item")).getD "")
    cases hp : (widget c m kind).secondary with
    | none => decide
    | some f => exact unbroken_displayExpression (hfields f (secondaryField_mem hp))
  refine paired_record (by decide +kernel) ?_
  exact .cons (.unknown _ _) <|
    .cons (paired_text (hmodel.append (mild_pascal _))) <|
    .cons (paired_text hmodel) <|
    .cons (paired_texts hi) <|
    .cons hcontrols <|
    .cons (.unknown _ _) <|
    .cons (.unknown _ _) <|
    .cons (.line hprimary) <|
    .cons (.line hsecondary) <|
    .cons (paired_text (mild_mark c)) <|
    .cons (paired_comment hoff c 0 _) <|
    .cons (.unknown _ _) .nil

/-! ### Screens -/

/-- What is known about a line of the details. -/
def DetailRow.pairing : Pairing := .record [("label", .line), ("expression", .line)]

/-- What is known about a screen. -/
def Screen.pairing : Pairing := .record [
  ("screen_type", .unknown), ("class_name", .mild), ("model_class", .mild),
  ("service_class", .mild), ("title", .line), ("label", .line), ("imports", .list .lines),
  ("rows", .list DetailRow.pairing), ("id_field", .unknown), ("id_nullable", .mild),
  ("nullable_suffix", .mild), ("service_modifier", .mild), ("doc", .note),
  ("id_expression", .function), ("screen_class", .function), ("widget_class", .function)]

theorem mild_idExpression {s : Screen} (hs : ∀ f, s.idField = some f → Mild f) {receiver : String}
    (h : Mild receiver) : Mild (s.idExpression receiver) := by
  unfold Screen.idExpression
  cases hf : s.idField with
  | none => exact .of_chars rfl (by decide)
  | some f =>
      have hdot : Mild "." := .of_chars rfl (by decide)
      have hopening : Mild "(" := .of_chars rfl (by decide)
      have haccess : Mild (receiver ++ "." ++ f) := (h.append hdot).append (hs f hf)
      dsimp only
      split_ifs
      · exact (hopening.append haccess).append (.of_chars rfl (by decide))
      · exact haccess

theorem unbroken_title_of_model (m : Model) (kind : ScreenKind) : Unbroken (kind.title m) := by
  have htitle : Unbroken (Naming.title m.className) := unbroken_title _
  cases kind with
  | list => exact unbroken_title _
  | detail => exact htitle.append (by decide)
  | create | edit => exact .append (by decide) htitle

theorem paired_screen (hoff : off.truthy = false) (hc : Learned c.names) {kind : ScreenKind}
    (hi : (Artifact.screen kind).ClearImports c.settings m) :
    (screen (c.documented off) m kind).value.Paired Screen.pairing
      (screen (c.documented on) m kind).value := by
  have hmodel : Mild (c.typeName m) := mild_type hc m.className
  have hscreen : ∀ kind : String, Mild (c.typeName m ++ Naming.pascal kind ++ "Screen") :=
    fun kind => (hmodel.append (mild_pascal _)).append (.of_chars rfl (by decide))
  have hservice : Mild (c.typeName m ++ "Service") := hmodel.append (.of_chars rfl (by decide))
  have hrows : (Template.Value.list ((screen c m kind).rows.map Screen.rowValue)).Paired
      (.list DetailRow.pairing) (.list ((screen c m kind).rows.map Screen.rowValue)) := by
    refine paired_map fun row hrow => ?_
    change row ∈ (if kind = .detail then
      (fields c m).map fun f => ⟨f.label, displayExpression "item" f⟩ else []) at hrow
    split_ifs at hrow
    · obtain ⟨f, hf, rfl⟩ := List.mem_map.1 hrow
      refine paired_record (by decide +kernel) ?_
      exact .cons (.line (unbroken_label_of_mem_fields hf)) <|
        .cons (.line (unbroken_displayExpression (mild_name_of_mem_fields hc hf).unbroken)) .nil
    · cases hrow
  have hid : ∀ s, (screen c m kind).idField = some s → Mild s := by
    intro s hs
    obtain ⟨f, hf, rfl⟩ := Option.map_eq_some_iff.1 hs
    have hfield := (Option.filter_eq_some_iff.1 hf).1
    exact mild_name_of_mem_fields hc (List.mem_of_find?_eq_some hfield)
  have hwords : Mild (screen c m kind).serviceWords := by
    show Mild (if c.nullSafe then "late final " else "")
    split_ifs <;> exact .of_chars rfl (by decide)
  refine paired_record (by decide +kernel) ?_
  exact .cons (.unknown _ _) <|
    .cons (paired_text (hscreen _)) <|
    .cons (paired_text hmodel) <|
    .cons (paired_text hservice) <|
    .cons (.line (unbroken_title_of_model m kind)) <|
    .cons (.line (unbroken_title _)) <|
    .cons (paired_texts hi) <|
    .cons hrows <|
    .cons (.unknown _ _) <|
    .cons (paired_flag _) <|
    .cons (paired_text (mild_mark c)) <|
    .cons (paired_text hwords) <|
    .cons (paired_comment hoff c 0 _) <|
    .cons (.function fun _ h => mild_idExpression hid h) <|
    .cons (.function fun _ _ => hscreen _) <|
    .cons (.function fun _ _ => hmodel.append (mild_pascal _)) .nil

/-! ### All files -/

/-- What is known about what fills the template of a file, with and without documentation. -/
def Artifact.pairings : Artifact → Pairings
  | .dataClass => [("model", DataClass.pairing)]
  | .service => [("service", Service.pairing)]
  | .widget _ => [("widget", Widget.pairing)]
  | .screen _ => [("screen", Screen.pairing)]
  | .transport => []

theorem lookup_self_pairings (a : Artifact) : a.pairings.lookup "self" = none := by
  cases a <;> rfl

/-- **Templates are filled with paired values.** -/
theorem resembles_scope (hoff : off.truthy = false) (hc : Learned c.names) {a : Artifact}
    (hi : a.ClearImports c.settings m) (hm : m.OneLined) (ha : a ≠ .transport) (on : Datum) :
    ∃ scope scope', a.scope (c.documented off) m = .ok scope ∧
      a.scope (c.documented on) m = .ok scope' ∧ Resembles a.pairings scope scope' := by
  cases a with
  | dataClass =>
      exact ⟨_, _, rfl, rfl, Template.resembles_singleton (paired_dataClass hoff hc hi hm) "model"⟩
  | service =>
      exact ⟨_, _, rfl, rfl, Template.resembles_singleton (paired_service hoff hc hi hm) "service"⟩
  | widget kind =>
      exact ⟨_, _, rfl, rfl,
        Template.resembles_singleton (paired_widget hoff hc hi hm) "widget"⟩
  | screen kind =>
      exact ⟨_, _, rfl, rfl,
        Template.resembles_singleton (paired_screen hoff hc hi) "screen"⟩
  | transport => exact absurd rfl ha

end Dart

end DartScaffold
