/-
**The shapes of what fills the templates.**

Data classes, services, widgets, screens and the transport are records, and of each member it is
known in advance whether it is a well nested text, a list of such, a record again, or a function.
That they are of these shapes takes no more than well nested texts from the settings and the model.

Main definitions:

* `Settings.Nested`, `Model.Nested` — the texts that are given are well nested;
* `Dart.Field.shape`, `Dart.DataClass.shape`, `Dart.Service.shape`, `Dart.Widget.shape`,
  `Dart.Screen.shape`, `Dart.Transport.shape` — what is known about the records;
* `Dart.Artifact.known` — what is known about what fills the template of a file.

Main results:

* `Dart.suits_scope` — **the template of every file is filled with values of known shapes**.
-/

import Mathlib
import DartScaffold.Proofs.Datum.Written
import DartScaffold.Proofs.Generation.NestedParts
import DartScaffold.Proofs.Template.Shape

set_option relaxedAutoImplicit false
set_option autoImplicit false

namespace DartScaffold

open Text (WellNested Plain)
open Template (Shape Known Suits hasShape_text hasShape_texts hasShape_flag hasShape_map
  hasShape_optional hasShape_record)

/-! ### What is given -/

/-- The texts of the settings that files are generated with are well nested. -/
structure Settings.Nested (s : Settings) : Prop where
  folders : ∀ folder : Dart.Folder, WellNested (folder.setting s.output).display
  baseUrl : WellNested s.api.baseUrl.display
  authHeader : WellNested s.api.authHeader.display

/-- The texts of a model that go into files as they are are well nested: the names of its columns
and of its table, and the methods and paths of its further routes. -/
structure Model.Nested (m : Model) : Prop where
  columns : ∀ column ∈ m.attributes, WellNested column.2.name.display
  table : WellNested m.table.display
  routes : ∀ r ∈ m.customRoutes, WellNested r.primary ∧ WellNested r.uri

/-- The usual settings put no brackets into files. -/
theorem Settings.nested_standard : Settings.standard.Nested where
  folders := by intro folder; cases folder <;> decide
  baseUrl := by decide
  authHeader := by decide

namespace Dart

variable {c : Context} {m : Model}

/-! ### Fields -/

/-- What is known about a field. -/
def Field.shape : Shape := .record [
  ("name", .shown), ("json_key", .shown), ("dart_type", .shown), ("target_type", .unknown),
  ("nullable", .shown), ("type_annotation", .shown), ("copy_with_type", .shown),
  ("from_json", .shown), ("to_json", .shown), ("label", .shown), ("required", .shown),
  ("control", .shown), ("is_numeric", .shown), ("is_string", .shown)]

theorem wellNested_controlOf (t : ColumnType) : WellNested (controlOf t) := by
  cases t <;> decide

theorem hasShape_ofAttribute (hc : Learned c.names) {a : Attribute}
    (ha : WellNested a.name.display) : (Field.ofAttribute c a).value.HasShape Field.shape := by
  have hname : Plain (c.names.field a.name) := plain_field hc a.name
  have htype : Plain (typeOf a.target) := plain_typeOf a.target
  have hcopied : Plain (typeOf a.target ++ c.mark) := htype.append (plain_mark c)
  have hdeclared : WellNested (Field.ofAttribute c a).declared := by
    show WellNested (if a.nullable then typeOf a.target ++ c.mark else typeOf a.target)
    split_ifs
    · exact hcopied.wellNested
    · exact htype.wellNested
  refine hasShape_record (by decide +kernel) ?_
  exact .cons ⟨rfl, hasShape_text hname.wellNested⟩ <|
    .cons ⟨rfl, .shown ha⟩ <|
    .cons ⟨rfl, hasShape_text htype.wellNested⟩ <|
    .cons ⟨rfl, .unknown _⟩ <|
    .cons ⟨rfl, hasShape_flag _⟩ <|
    .cons ⟨rfl, hasShape_text hdeclared⟩ <|
    .cons ⟨rfl, hasShape_text hcopied.wellNested⟩ <|
    .cons ⟨rfl, hasShape_text (wellNested_reading (plain_mark c) ha _ _)⟩ <|
    .cons ⟨rfl, hasShape_text (wellNested_writing hname _ _)⟩ <|
    .cons ⟨rfl, hasShape_text (Naming.plain_title _).wellNested⟩ <|
    .cons ⟨rfl, hasShape_flag _⟩ <|
    .cons ⟨rfl, hasShape_text (wellNested_controlOf _)⟩ <|
    .cons ⟨rfl, hasShape_flag _⟩ <|
    .cons ⟨rfl, hasShape_flag _⟩ .nil

theorem wellNested_of_mem_included (hm : m.Nested) {a : Attribute} (ha : a ∈ c.included m) :
    WellNested a.name.display := by
  obtain ⟨name, hcolumn, -⟩ := (Context.mem_included c m a).1 ha
  exact hm.columns (name, a) hcolumn

theorem hasShape_of_mem_fields (hc : Learned c.names) (hm : m.Nested) {f : Field}
    (hf : f ∈ fields c m) : f.value.HasShape Field.shape := by
  obtain ⟨a, ha, rfl⟩ := exists_of_mem_fields hf
  exact hasShape_ofAttribute hc (wellNested_of_mem_included hm ha)

theorem plain_label_of_mem_fields {f : Field} (hf : f ∈ fields c m) : Plain f.label := by
  obtain ⟨a, -, rfl⟩ := exists_of_mem_fields hf
  exact Naming.plain_title _

/-! ### Data classes -/

/-- What is known about a data class. -/
def DataClass.shape : Shape := .record [
  ("class_name", .shown), ("fields", .list Field.shape), ("imports", .list .shown),
  ("part_directive", .shown), ("use_json_annotation", .tested), ("required_keyword", .shown),
  ("doc", .shown), ("field_names", .list .shown), ("to_string_body", .shown)]

theorem hasShape_dataClass (hc : Learned c.names) (hs : c.settings.Nested) (hm : m.Nested) :
    (dataClass c m).value.HasShape DataClass.shape := by
  have hname : WellNested (c.typeName m) := (plain_type hc m.className).wellNested
  have hpart : ∀ t, (dataClass c m).part? = some t → WellNested t := by
    intro t ht
    have hstem : WellNested (modelStem m.className) := (Naming.plain_snake _).wellNested
    change (if c.settings.code.useJsonAnnotation.truthy
      then some ("part '" ++ modelStem m.className ++ ".g.dart';") else none) = some t at ht
    split_ifs at ht
    rw [← Option.some.inj ht]
    exact (WellNested.append (by decide) hstem).append (by decide)
  have hword : WellNested (dataClass c m).requiredWord := by
    show WellNested (if c.nullSafe then "required " else "")
    split_ifs <;> decide
  have hcomment : WellNested (dataClass c m).comment :=
    wellNested_comment_of_wanted
      ((((hname.append (by decide)).append hm.table).append (by decide))) c 0
  have hfields : ∀ s ∈ (dataClass c m).fieldNames, Plain s := by
    intro s hs
    obtain ⟨f, hf, rfl⟩ := List.mem_map.1 hs
    exact plain_name_of_mem_fields hc hf
  have hbody : Plain (dataClass c m).shownFields := by
    refine .join (by decide) fun s hs => ?_
    obtain ⟨f, hf, rfl⟩ := List.mem_map.1 hs
    have hf := plain_name_of_mem_fields hc hf
    exact (hf.append (by decide)).append hf
  refine hasShape_record (by decide +kernel) ?_
  exact .cons ⟨rfl, hasShape_text hname⟩ <|
    .cons ⟨rfl, hasShape_map fun f hf => hasShape_of_mem_fields hc hm hf⟩ <|
    .cons ⟨rfl, hasShape_texts (wellNested_imports hs.folders m .dataClass)⟩ <|
    .cons ⟨rfl, hasShape_optional hpart⟩ <|
    .cons ⟨rfl, .tested _⟩ <|
    .cons ⟨rfl, hasShape_text hword⟩ <|
    .cons ⟨rfl, hasShape_text hcomment⟩ <|
    .cons ⟨rfl, hasShape_texts fun s hs => (hfields s hs).wellNested⟩ <|
    .cons ⟨rfl, hasShape_text hbody.wellNested⟩ .nil

/-! ### Services -/

/-- The parts of a method are well nested. -/
structure Method.Nested (f : Method) : Prop where
  name : WellNested f.name
  kind : WellNested f.kind
  returnType : WellNested f.returnType
  comment : WellNested f.comment
  parameters : ∀ p ∈ f.parameters, Plain p.type ∧ Plain p.name
  verb : WellNested f.verb
  path : WellNested f.path
  bodyName : WellNested f.bodyName

/-- What is known about a method. -/
def Method.shape : Shape := .record [
  ("name", .shown), ("kind", .shown), ("return_type", .shown), ("returns", .shown),
  ("doc", .shown), ("parameters", .unknown), ("verb", .shown), ("path", .shown),
  ("has_body", .shown), ("body_name", .shown), ("signature", .shown)]

theorem Method.Nested.hasShape {f : Method} (h : f.Nested) : f.value.HasShape Method.shape := by
  have hreturns : WellNested f.returned.name := by
    cases f.returned <;> decide
  refine hasShape_record (by decide +kernel) ?_
  exact .cons ⟨rfl, hasShape_text h.name⟩ <|
    .cons ⟨rfl, hasShape_text h.kind⟩ <|
    .cons ⟨rfl, hasShape_text h.returnType⟩ <|
    .cons ⟨rfl, hasShape_text hreturns⟩ <|
    .cons ⟨rfl, hasShape_text h.comment⟩ <|
    .cons ⟨rfl, .unknown _⟩ <|
    .cons ⟨rfl, hasShape_text h.verb⟩ <|
    .cons ⟨rfl, hasShape_text h.path⟩ <|
    .cons ⟨rfl, hasShape_flag _⟩ <|
    .cons ⟨rfl, hasShape_text h.bodyName⟩ <|
    .cons ⟨rfl, hasShape_text (plain_signature h.parameters).wellNested⟩ .nil

theorem nested_usualMethods {model : String} (h : Plain model) :
    ∀ f ∈ usualMethods c model, f.Nested := by
  have hmodel := h.wellNested
  have hcomment := fun s (hs : WellNested s) => wellNested_comment_of_wanted hs c 2
  have hid : ∀ p ∈ [idParameter], Plain p.type ∧ Plain p.name := by
    simp only [List.forall_mem_cons]
    exact ⟨by decide, by simp⟩
  have hdata : ∀ p ∈ [bodyParameter "data"], Plain p.type ∧ Plain p.name := by
    simp only [List.forall_mem_cons]
    exact ⟨by decide, by simp⟩
  simp only [usualMethods, List.forall_mem_cons]
  refine ⟨?all, ?one, ?create, ?update, ?delete, by simp⟩
  case all =>
    refine ⟨?_, ?_, wellNested_returnedType h .many, hcomment _ ?text, by simp, ?_, ?_, ?_⟩
    case text =>
      exact ((WellNested.append (by decide) hmodel).append (by decide)).append (by decide)
    all_goals
      dsimp only
      decide
  case one =>
    refine ⟨?_, ?_, hmodel, hcomment _ ?text, hid, ?_, ?_, ?_⟩
    case text =>
      exact ((WellNested.append (by decide) hmodel).append (by decide)).append hmodel
    all_goals
      dsimp only
      decide
  case create =>
    refine ⟨?_, ?_, hmodel, hcomment _ ?text, hdata, ?_, ?_, ?_⟩
    case text =>
      exact (((WellNested.append (by decide) hmodel).append (by decide)).append hmodel).append
        (by decide)
    all_goals
      dsimp only
      decide
  case update =>
    refine ⟨?_, ?_, hmodel, hcomment _ ?text, List.forall_mem_append.2 ⟨hid, hdata⟩, ?_, ?_, ?_⟩
    case text =>
      exact (((((WellNested.append (by decide) hmodel).append (by decide)).append hmodel).append
        (by decide)).append hmodel).append (by decide)
    all_goals
      dsimp only
      decide
  case delete =>
    refine ⟨?_, ?_, ?_, hcomment _ ?text, hid, ?_, ?_, ?_⟩
    case text =>
      exact (((WellNested.append (by decide) hmodel).append (by decide)).append hmodel).append
        (by decide)
    all_goals
      dsimp only
      decide

theorem plain_pathParameters (hc : Learned c.names) (r : Route) :
    ∀ p ∈ pathParameters c.names r, Plain p.type ∧ Plain p.name := by
  intro p hp
  obtain ⟨parameter, -, rfl⟩ := List.mem_map.1 hp
  refine ⟨?_, plain_field hc _⟩
  show Plain (parameterTypeOf parameter.type)
  cases parameter.type <;> decide

theorem nested_customMethod (hc : Learned c.names) {model : String} (h : Plain model)
    (taken : List String) {r : Route} (hr : WellNested r.primary ∧ WellNested r.uri) :
    (customMethod c model taken r).Nested := by
  have hbodyName : Plain (customMethod c model taken r).bodyName := by
    show Plain (if bodyVerbs.contains (verbOf r) then bodyNameFor (pathParameters c.names r)
      else "data")
    split_ifs
    · exact plain_bodyNameFor _
    · decide
  refine ⟨(plain_freshName hc taken (verbOf r) _).wellNested, show WellNested "custom" by decide,
    wellNested_returnedType h _, ?_, ?_, (plain_verbOf r).wellNested,
    wellNested_interpolate hc hr.2, hbodyName.wellNested⟩
  · exact wellNested_comment_of_wanted ((hr.1.append (by decide)).append hr.2) c 2
  · refine List.forall_mem_append.2 ⟨plain_pathParameters hc r, fun p hp => ?_⟩
    split_ifs at hp
    · obtain rfl := List.mem_singleton.1 hp
      exact ⟨show Plain "Map<String, dynamic>" by decide, plain_bodyNameFor _⟩
    · cases hp

theorem nested_customMethods (hc : Learned c.names) {model : String} (h : Plain model)
    (taken : List String) {routes : List Route}
    (hroutes : ∀ r ∈ routes, WellNested r.primary ∧ WellNested r.uri) :
    ∀ f ∈ customMethods c model taken routes, f.Nested := by
  induction routes generalizing taken with
  | nil => simp [customMethods]
  | cons r rest ih =>
      refine List.forall_mem_cons.2 ⟨?_, ?_⟩
      · exact nested_customMethod hc h taken (hroutes r (List.mem_cons_self ..))
      · exact ih _ fun q hq => hroutes q (List.mem_cons_of_mem _ hq)

/-- What is known about a service. -/
def Service.shape : Shape := .record [
  ("class_name", .shown), ("model_class", .shown), ("endpoint", .shown),
  ("imports", .list .shown), ("methods", .list Method.shape), ("nullable_suffix", .shown),
  ("doc", .shown), ("method_names", .list .shown), ("custom_methods", .list Method.shape)]

theorem hasShape_service (hc : Learned c.names) (hs : c.settings.Nested) (hm : m.Nested) :
    (service c m).value.HasShape Service.shape := by
  have hmodel : Plain (c.typeName m) := plain_type hc m.className
  have hname : WellNested (service c m).name := (hmodel.append (by decide)).wellNested
  have hendpoint : Plain (Context.endpoint m) := Naming.plain_pluralize (Naming.plain_snake _)
  have hmethods : ∀ f ∈ (service c m).methods, f.Nested :=
    List.forall_mem_append.2
      ⟨nested_usualMethods hmodel, nested_customMethods hc hmodel usualNames hm.routes⟩
  have hcomment : WellNested (service c m).comment :=
    wellNested_comment_of_wanted ((WellNested.append (by decide) hmodel.wellNested).append
      (by decide)) c 0
  have hnames : ∀ s ∈ (service c m).methodNames, WellNested s := by
    intro s hs
    obtain ⟨f, hf, rfl⟩ := List.mem_map.1 hs
    exact (hmethods f hf).name
  refine hasShape_record (by decide +kernel) ?_
  exact .cons ⟨rfl, hasShape_text hname⟩ <|
    .cons ⟨rfl, hasShape_text hmodel.wellNested⟩ <|
    .cons ⟨rfl, hasShape_text hendpoint.wellNested⟩ <|
    .cons ⟨rfl, hasShape_texts (wellNested_imports hs.folders m .service)⟩ <|
    .cons ⟨rfl, hasShape_map fun f hf => (hmethods f hf).hasShape⟩ <|
    .cons ⟨rfl, hasShape_text (plain_mark c).wellNested⟩ <|
    .cons ⟨rfl, hasShape_text hcomment⟩ <|
    .cons ⟨rfl, hasShape_texts hnames⟩ <|
    .cons ⟨rfl, hasShape_map fun f hf => (hmethods f (List.mem_filter.1 hf).1).hasShape⟩ .nil

/-! ### Widgets -/

/-- What is known about a control. -/
def Control.shape : Shape := .record [
  ("field", Field.shape), ("kind", .shown), ("state_name", .shown), ("picker_name", .shown),
  ("validator_message", .shown), ("uses_controller", .shown)]

theorem hasShape_controlFor (hc : Learned c.names) (hm : m.Nested) {f : Field}
    (hf : f ∈ fields c m) : (controlFor f).value.HasShape Control.shape := by
  have hname : Plain f.name := plain_name_of_mem_fields hc hf
  have hstate : Plain (controlFor f).stateName := by
    show Plain (if f.control = "toggle" then "_" ++ f.name else "_" ++ f.name ++ "Controller")
    split_ifs
    · exact Text.Plain.append (by decide) hname
    · exact (Text.Plain.append (by decide) hname).append (by decide)
  have hpicker : Plain (controlFor f).pickerName := by
    show Plain (if f.control = "date" then "_select" ++ Naming.pascal (Naming.source f.jsonKey)
      else "")
    split_ifs
    · exact Text.Plain.append (by decide) (Naming.plain_pascal _)
    · decide
  have hmessage : Plain (controlFor f).message := by
    show Plain (if f.required then "Please enter " ++ f.label else "")
    split_ifs
    · exact Text.Plain.append (by decide) (plain_label_of_mem_fields hf)
    · decide
  refine hasShape_record (by decide +kernel) ?_
  exact .cons ⟨rfl, hasShape_of_mem_fields hc hm hf⟩ <|
    .cons ⟨rfl, hasShape_text (wellNested_controlOf _)⟩ <|
    .cons ⟨rfl, hasShape_text hstate.wellNested⟩ <|
    .cons ⟨rfl, hasShape_text hpicker.wellNested⟩ <|
    .cons ⟨rfl, hasShape_text hmessage.wellNested⟩ <|
    .cons ⟨rfl, hasShape_flag _⟩ .nil

/-- What is known about a widget. -/
def Widget.shape : Shape := .record [
  ("widget_type", .shown), ("class_name", .shown), ("model_class", .shown),
  ("imports", .list .shown), ("controls", .list Control.shape), ("primary", .unknown),
  ("secondary", .unknown), ("primary_expression", .shown), ("secondary_expression", .shown),
  ("nullable_suffix", .shown), ("doc", .shown), ("control_names", .unknown)]

/-- The second field is one of the fields. -/
theorem secondaryField_mem {fs : List Field} {primary : Option Field} {f : Field}
    (h : secondaryField fs primary = some f) : f ∈ fs := by
  obtain ⟨key, -, hkey⟩ := List.exists_of_findSome?_eq_some h
  split_ifs at hkey
  exact mem_of_fieldNamed? hkey

theorem hasShape_widget (hc : Learned c.names) (hs : c.settings.Nested) (hm : m.Nested)
    (kind : WidgetKind) : (widget c m kind).value.HasShape Widget.shape := by
  have hmodel : Plain (c.typeName m) := plain_type hc m.className
  have hkind : WellNested kind.name := by
    cases kind <;> decide
  have hname : WellNested (widget c m kind).name :=
    (hmodel.append (Naming.plain_pascal _)).wellNested
  have hcontrols : ∀ control ∈ (widget c m kind).controls,
      control.value.HasShape Control.shape := by
    intro control hcontrol
    change control ∈ (if kind = .form then (inputFields c m).map controlFor else []) at hcontrol
    split_ifs at hcontrol
    · obtain ⟨f, hf, rfl⟩ := List.mem_map.1 hcontrol
      exact hasShape_controlFor hc hm (List.mem_filter.1 hf).1
    · cases hcontrol
  have hfields : ∀ f ∈ (if kind = .card then fields c m else []), Plain f.name := by
    intro f hf
    split_ifs at hf
    · exact plain_name_of_mem_fields hc hf
    · cases hf
  have hshown : ∀ f, Plain f.name → WellNested (displayExpression "item" f) := fun f hf =>
    wellNested_displayExpression (by decide) hf
  have hprimary : WellNested (widget c m kind).primaryText := by
    show WellNested (if kind = .card then ((widget c m kind).primary.map
      (displayExpression "item")).getD ("'" ++ c.typeName m ++ "'") else "")
    split_ifs
    · cases hp : (widget c m kind).primary with
      | none => exact (WellNested.append (by decide) hmodel.wellNested).append (by decide)
      | some f => exact hshown f (hfields f (primaryField_mem hp))
    · decide
  have hsecondary : WellNested (widget c m kind).secondaryText := by
    show WellNested (((widget c m kind).secondary.map (displayExpression "item")).getD "")
    cases hp : (widget c m kind).secondary with
    | none => decide
    | some f => exact hshown f (hfields f (secondaryField_mem hp))
  have hcomment : WellNested (widget c m kind).comment := by
    refine wellNested_comment_of_wanted ?_ c 0
    cases kind <;> exact (WellNested.append (by decide) hmodel.wellNested).append (by decide)
  refine hasShape_record (by decide +kernel) ?_
  exact .cons ⟨rfl, hasShape_text hkind⟩ <|
    .cons ⟨rfl, hasShape_text hname⟩ <|
    .cons ⟨rfl, hasShape_text hmodel.wellNested⟩ <|
    .cons ⟨rfl, hasShape_texts (wellNested_imports hs.folders m (.widget kind))⟩ <|
    .cons ⟨rfl, hasShape_map hcontrols⟩ <|
    .cons ⟨rfl, .unknown _⟩ <|
    .cons ⟨rfl, .unknown _⟩ <|
    .cons ⟨rfl, hasShape_text hprimary⟩ <|
    .cons ⟨rfl, hasShape_text hsecondary⟩ <|
    .cons ⟨rfl, hasShape_text (plain_mark c).wellNested⟩ <|
    .cons ⟨rfl, hasShape_text hcomment⟩ <|
    .cons ⟨rfl, .unknown _⟩ .nil

/-! ### Screens -/

/-- What is known about a line of the details. -/
def DetailRow.shape : Shape := .record [("label", .shown), ("expression", .shown)]

/-- What is known about a screen. -/
def Screen.shape : Shape := .record [
  ("screen_type", .shown), ("class_name", .shown), ("model_class", .shown),
  ("service_class", .shown), ("title", .shown), ("label", .shown), ("imports", .list .shown),
  ("rows", .list DetailRow.shape), ("id_field", .unknown), ("id_nullable", .shown),
  ("nullable_suffix", .shown), ("service_modifier", .shown), ("doc", .shown),
  ("id_expression", .function), ("screen_class", .function), ("widget_class", .function)]

theorem wellNested_idExpression {s : Screen} (hs : ∀ f, s.idField = some f → Plain f)
    {receiver : String} (h : WellNested receiver) : WellNested (s.idExpression receiver) := by
  unfold Screen.idExpression
  cases hf : s.idField with
  | none =>
      show WellNested "0"
      decide
  | some f =>
      have haccess : WellNested (receiver ++ "." ++ f) :=
        (h.append (by decide)).append (hs f hf).wellNested
      dsimp only
      split_ifs
      · exact haccess.between (d := ')') (by decide) (by decide)
      · exact haccess

theorem plain_title_of_model (m : Model) (kind : ScreenKind) : Plain (kind.title m) := by
  have htitle : Plain (Naming.title m.className) := Naming.plain_title _
  cases kind with
  | list => exact Naming.plain_title _
  | detail => exact htitle.append (by decide)
  | create | edit => exact Text.Plain.append (by decide) htitle

theorem hasShape_screen (hc : Learned c.names) (hs : c.settings.Nested) (m : Model)
    (kind : ScreenKind) : (screen c m kind).value.HasShape Screen.shape := by
  have hmodel : Plain (c.typeName m) := plain_type hc m.className
  have hkind : WellNested kind.name := by
    cases kind <;> decide
  have hname : WellNested (screen c m kind).name :=
    ((hmodel.append (Naming.plain_pascal _)).append (by decide)).wellNested
  have hservice : WellNested (c.typeName m ++ "Service") := (hmodel.append (by decide)).wellNested
  have hrows : ∀ row ∈ (screen c m kind).rows,
      (Screen.rowValue row).HasShape DetailRow.shape := by
    intro row hrow
    change row ∈ (if kind = .detail then
      (fields c m).map fun f => ⟨f.label, displayExpression "item" f⟩ else []) at hrow
    split_ifs at hrow
    · obtain ⟨f, hf, rfl⟩ := List.mem_map.1 hrow
      refine hasShape_record (by decide +kernel) ?_
      exact .cons ⟨rfl, hasShape_text (plain_label_of_mem_fields hf).wellNested⟩ <|
        .cons ⟨rfl, hasShape_text (wellNested_displayExpression (by decide)
          (plain_name_of_mem_fields hc hf))⟩ .nil
    · cases hrow
  have hid : ∀ s, (screen c m kind).idField = some s → Plain s := by
    intro s hs
    obtain ⟨f, hf, rfl⟩ := Option.map_eq_some_iff.1 hs
    have hfield := (Option.filter_eq_some_iff.1 hf).1
    exact plain_name_of_mem_fields hc (List.mem_of_find?_eq_some hfield)
  have hwords : WellNested (screen c m kind).serviceWords := by
    show WellNested (if c.nullSafe then "late final " else "")
    split_ifs <;> decide
  have hcomment : WellNested (screen c m kind).comment := by
    refine wellNested_comment_of_wanted ?_ c 0
    cases kind <;> exact (WellNested.append (by decide) hmodel.wellNested).append (by decide)
  refine hasShape_record (by decide +kernel) ?_
  exact .cons ⟨rfl, hasShape_text hkind⟩ <|
    .cons ⟨rfl, hasShape_text hname⟩ <|
    .cons ⟨rfl, hasShape_text hmodel.wellNested⟩ <|
    .cons ⟨rfl, hasShape_text hservice⟩ <|
    .cons ⟨rfl, hasShape_text (plain_title_of_model m kind).wellNested⟩ <|
    .cons ⟨rfl, hasShape_text (Naming.plain_title _).wellNested⟩ <|
    .cons ⟨rfl, hasShape_texts (wellNested_imports hs.folders m (.screen kind))⟩ <|
    .cons ⟨rfl, hasShape_map hrows⟩ <|
    .cons ⟨rfl, .unknown _⟩ <|
    .cons ⟨rfl, hasShape_flag _⟩ <|
    .cons ⟨rfl, hasShape_text (plain_mark c).wellNested⟩ <|
    .cons ⟨rfl, hasShape_text hwords⟩ <|
    .cons ⟨rfl, hasShape_text hcomment⟩ <|
    .cons ⟨rfl, .function fun _ h => wellNested_idExpression hid h⟩ <|
    .cons ⟨rfl, .function fun _ _ =>
      ((hmodel.append (Naming.plain_pascal _)).append (by decide)).wellNested⟩ <|
    .cons ⟨rfl, .function fun _ _ => (hmodel.append (Naming.plain_pascal _)).wellNested⟩ .nil

/-! ### The transport -/

/-- What is known about the transport. -/
def Transport.shape : Shape := .record [
  ("base_url", .shown), ("timeout", .shown), ("auth_type", .shown), ("auth_header", .shown),
  ("auth_scheme", .shown), ("nullable_suffix", .shown), ("doc_exception", .shown),
  ("doc_service", .shown)]

theorem plain_display_int (i : Int) : Plain (Datum.int i).display := by
  have hdigits : ∀ d ∈ Nat.toDigits 10 i.natAbs, Text.isBracket d = false := by
    intro d hd
    have hdigit := Nat.isDigit_of_mem_toDigits (by omega) (by omega) hd
    exact Text.isBracket_of_isAlphanum (Naming.isAlphanum_of_isDigit hdigit)
  intro d hd
  have hshown : (Datum.int i).display.toList = _ := Datum.toList_toString_int i
  rw [hshown] at hd
  split_ifs at hd
  · exact hdigits d hd
  · rcases List.mem_cons.1 hd with rfl | hd
    · decide
    · exact hdigits d hd

/-- A known way of authorizing. -/
theorem plain_of_authScheme? {given scheme : String} (h : authScheme? given = some scheme) :
    Plain given ∧ Plain scheme := by
  have hall : ∀ known ∈ [("bearer", "Bearer"), ("basic", "Basic")],
      Plain known.1 ∧ Plain known.2 := by
    simp only [List.forall_mem_cons]
    exact ⟨by decide, by decide, by simp⟩
  exact hall (given, scheme) (Entries.mem_of_lookup h)

theorem hasShape_transport (hs : c.settings.Nested) {t : Transport} (h : transport c = .ok t) :
    t.value.HasShape Transport.shape := by
  obtain ⟨given, -, h⟩ := exists_of_bind_eq_ok h
  obtain ⟨url, hurl, h⟩ := exists_of_bind_eq_ok h
  obtain ⟨timeout, -, h⟩ := exists_of_bind_eq_ok h
  obtain rfl := Except.ok.inj h
  have hbase : WellNested url := by
    have hgiven := hs.baseUrl
    rwa [(Datum.textFor_eq_ok_iff _ _ _).1 hurl] at hgiven
  have hslash : ∀ d, (d == '/') = true → Text.isBracket d = false := by
    intro d hd
    rw [eq_of_beq hd]
    decide
  have haddress : WellNested (Text.dropTrailing '/' url) := by
    refine (Text.wellNested_congr ?_).2 hbase
    rw [Text.dropTrailing, String.toList_ofList, Text.filter_trimEnd hslash]
  have hway : Plain (if (authScheme? (Text.lower given)).isSome then Text.lower given else "none") ∧
      Plain ((authScheme? (Text.lower given)).getD "") := by
    cases hscheme : authScheme? (Text.lower given) with
    | none => exact ⟨show Plain "none" by decide, by decide⟩
    | some scheme => exact plain_of_authScheme? hscheme
  refine hasShape_record (by decide +kernel) ?_
  exact .cons ⟨rfl, hasShape_text haddress⟩ <|
    .cons ⟨rfl, .shown (plain_display_int timeout).wellNested⟩ <|
    .cons ⟨rfl, hasShape_text hway.1.wellNested⟩ <|
    .cons ⟨rfl, .shown hs.authHeader⟩ <|
    .cons ⟨rfl, hasShape_text hway.2.wellNested⟩ <|
    .cons ⟨rfl, hasShape_text (plain_mark c).wellNested⟩ <|
    .cons ⟨rfl, hasShape_text (wellNested_comment_of_wanted (by decide) c 0)⟩ <|
    .cons ⟨rfl, hasShape_text (wellNested_comment_of_wanted (by decide) c 0)⟩ .nil

/-! ### All files -/

/-- What is known about what fills the template of a file. -/
def Artifact.known : Artifact → Known
  | .dataClass => [("model", DataClass.shape)]
  | .service => [("service", Service.shape)]
  | .widget _ => [("widget", Widget.shape)]
  | .screen _ => [("screen", Screen.shape)]
  | .transport => [("api", Transport.shape)]

/-- No template is filled with a value under the name that stands for the template. -/
theorem lookup_self_scope {a : Artifact} {scope : Template.Scope} (h : a.scope c m = .ok scope) :
    scope.lookup "self" = none := by
  cases a with
  | dataClass | service | widget | screen =>
      obtain rfl := Except.ok.inj h
      rfl
  | transport =>
      obtain ⟨t, -, hscope⟩ := exists_of_bind_eq_ok h
      obtain rfl := Except.ok.inj hscope
      rfl

theorem lookup_self_known (a : Artifact) : a.known.lookup "self" = none := by
  cases a <;> rfl

/-- **The template of every file is filled with values of known shapes.** -/
theorem suits_scope (hc : Learned c.names) (hs : c.settings.Nested) (hm : m.Nested) {a : Artifact}
    {scope : Template.Scope} (h : a.scope c m = .ok scope) : Suits a.known scope := by
  cases a with
  | dataClass =>
      obtain rfl := Except.ok.inj h
      exact Template.suits_singleton (hasShape_dataClass hc hs hm) "model"
  | service =>
      obtain rfl := Except.ok.inj h
      exact Template.suits_singleton (hasShape_service hc hs hm) "service"
  | widget kind =>
      obtain rfl := Except.ok.inj h
      exact Template.suits_singleton (hasShape_widget hc hs hm kind) "widget"
  | screen kind =>
      obtain rfl := Except.ok.inj h
      exact Template.suits_singleton (hasShape_screen hc hs m kind) "screen"
  | transport =>
      obtain ⟨t, ht, hscope⟩ := exists_of_bind_eq_ok h
      obtain rfl := Except.ok.inj hscope
      exact Template.suits_singleton (hasShape_transport hs ht) "api"

end Dart

end DartScaffold
