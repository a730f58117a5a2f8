/-
**Widgets.**

There are three widgets for a model: a form for its fields, a list of its items, and a card for one
item.  The form has a control for each field that can be edited.  The card shows one or two fields,
chosen by their names.

Main definitions:

* `Dart.WidgetKind` — the three kinds;
* `Dart.Control`, `Dart.controlFor` — a control of the form, and the one for a field;
* `Dart.primaryField`, `Dart.secondaryField` — the fields on the card;
* `Dart.Widget`, `Dart.widget` — what a widget consists of, and the one of a model.

Main results:

* `Dart.primaryField_eq_none_iff` — the card lacks a first field only if there are no fields;
* `Dart.primaryField_mem` — the first field is one of the fields.
-/

import DartScaffold.Dart.Field

set_option relaxedAutoImplicit false
set_option autoImplicit false

namespace DartScaffold.Dart

/-! ### Kinds -/

/-- The kinds of widgets. -/
inductive WidgetKind where
  | form
  | list
  | card
deriving DecidableEq, Repr, Inhabited

namespace WidgetKind

/-- The name of a kind. -/
def name : WidgetKind → String
  | .form => "form"
  | .list => "list"
  | .card => "card"

/-- The kinds in their usual order. -/
def all : List WidgetKind := [.form, .list, .card]

/-- The kind that a value names. -/
def ofDatum (d : Datum) : Except Fault WidgetKind :=
  match all.find? fun k => d.same (.text k.name) with
  | some k => .ok k
  | none => .error (.variant "widget" d (all.map name))

end WidgetKind

/-! ### Controls -/

/-- A control of the form. -/
structure Control where
  field : Field
  kind : String
  /-- The member that holds the state of the control. -/
  stateName : String
  /-- The method that lets a date be picked; empty for other controls. -/
  pickerName : String
  /-- What is said if nothing is entered; empty if that is allowed. -/
  message : String
deriving Repr, Inhabited

/-- Whether the state of the control is a text. -/
def Control.isTextual (c : Control) : Bool := c.kind != "toggle"

/-- A control as a value in templates. -/
def Control.value (c : Control) : Template.Value :=
  .record (recordName "widget" "FormControl") none [
    ("field", c.field.value), ("kind", .text c.kind), ("state_name", .text c.stateName),
    ("picker_name", .text c.pickerName), ("validator_message", .text c.message)]
    [("uses_controller", .flag c.isTextual)]

/-- The control for a field. -/
def controlFor (f : Field) : Control where
  field := f
  kind := f.control
  stateName := if f.control = "toggle" then "_" ++ f.name else "_" ++ f.name ++ "Controller"
  pickerName :=
    if f.control = "date" then "_select" ++ Naming.pascal (Naming.source f.jsonKey) else ""
  message := if f.required then "Please enter " ++ f.label else ""

/-! ### The fields on the card -/

/-- The last field with a name; names stand for one column each. -/
def fieldNamed? (fs : List Field) (key : String) : Option Field :=
  fs.reverse.find? fun f => f.jsonKey.same (.text key)

/-- The names of fields to be shown first, in the order of preference. -/
def primaryNames : List String := ["name", "title", "email", "username"]

/-- The names of fields to be shown second, in the order of preference. -/
def secondaryNames : List String := ["description", "email", "phone", "created_at"]

/-- The field to be shown first: one with a preferred name, or else the first text but the `id`, or
else the first one. -/
def primaryField (fs : List Field) : Option Field :=
  (primaryNames.findSome? (fieldNamed? fs)).or
    ((fs.find? fun f => f.isText && !f.jsonKey.same (.text "id")).or fs.head?)

/-- The field to be shown second: one with a preferred name that is not shown first. -/
def secondaryField (fs : List Field) (primary : Option Field) : Option Field :=
  secondaryNames.findSome? fun key =>
    if primary.any fun p => p.jsonKey.same (.text key) then none else fieldNamed? fs key

theorem mem_of_fieldNamed? {fs : List Field} {key : String} {f : Field}
    (h : fieldNamed? fs key = some f) : f ∈ fs := by
  simpa using List.mem_of_find?_eq_some h

/-- The first field is one of the fields. -/
theorem primaryField_mem {fs : List Field} {f : Field} (h : primaryField fs = some f) :
    f ∈ fs := by
  simp only [primaryField, Option.or_eq_some_iff] at h
  rcases h with h | ⟨-, h | ⟨-, h⟩⟩
  · obtain ⟨key, -, hk⟩ := List.exists_of_findSome?_eq_some h
    exact mem_of_fieldNamed? hk
  · exact List.mem_of_find?_eq_some h
  · exact List.mem_of_mem_head? h

/-- The card lacks a first field only if there are no fields. -/
theorem primaryField_eq_none_iff (fs : List Field) : primaryField fs = none ↔ fs = [] := by
  constructor
  · intro h
    simp only [primaryField, Option.or_eq_none_iff] at h
    simpa using h.2.2
  · rintro rfl
    rfl

/-! ### Widgets -/

/-- What a widget consists of. -/
structure Widget where
  kind : WidgetKind
  name : String
  model : String
  imports : List String
  controls : List Control
  primary : Option Field
  secondary : Option Field
  /-- The expressions that show the two fields. -/
  primaryText : String
  secondaryText : String
  mark : String
  comment : String
deriving Repr, Inhabited

namespace Widget

/-- The names of the columns that the controls edit. -/
def controlNames (w : Widget) : List Datum := w.controls.map fun c => c.field.jsonKey

/-- A field that may be missing, as a value in templates. -/
def fieldValue (f : Option Field) : Template.Value := (f.map Field.value).getD (.datum .null)

/-- A widget as a value in templates. -/
def value (w : Widget) : Template.Value :=
  .record (recordName "widget" "DartWidgetSpec") none [
    ("widget_type", .text w.kind.name), ("class_name", .text w.name),
    ("model_class", .text w.model), ("imports", .texts w.imports),
    ("controls", .list (w.controls.map Control.value)), ("primary", fieldValue w.primary),
    ("secondary", fieldValue w.secondary), ("primary_expression", .text w.primaryText),
    ("secondary_expression", .text w.secondaryText), ("nullable_suffix", .text w.mark),
    ("doc", .text w.comment)]
    [("control_names", .list (w.controlNames.map .datum))]

end Widget

/-- The file name of a widget. -/
def widgetStem (m : Model) (kind : WidgetKind) : String :=
  modelStem m.className ++ "_" ++ kind.name

/-- The comment of a widget. -/
def widgetComment (model : String) : WidgetKind → String
  | .form => "Form for creating and editing a " ++ model ++ "."
  | .list => "Scrollable list of " ++ model ++ " cards."
  | .card => "Summary card for a single " ++ model ++ "."

/-- The widget of a kind for a model. -/
def widget (c : Context) (m : Model) (kind : WidgetKind) : Widget :=
  let model := c.typeName m
  let o := c.settings.output
  let fs := if kind = .card then fields c m else []
  let primary := primaryField fs
  let secondary := secondaryField fs primary
  { kind := kind
    name := model ++ Naming.pascal kind.name
    model := model
    imports := ["import 'package:flutter/material.dart';", "",
        "import '" ++ modelImport o .widgets m.className ++ "';"] ++
      (if kind = .list then
        ["import '" ++ importPath o .widgets .widgets (widgetStem m .card) ++ "';"] else [])
    controls := if kind = .form then (inputFields c m).map controlFor else []
    primary := primary
    secondary := secondary
    primaryText :=
      if kind = .card then
        (primary.map (displayExpression "item")).getD ("'" ++ model ++ "'")
      else ""
    secondaryText := (secondary.map (displayExpression "item")).getD ""
    mark := c.mark
    comment := c.comment 0 (widgetComment model kind) }

end DartScaffold.Dart
