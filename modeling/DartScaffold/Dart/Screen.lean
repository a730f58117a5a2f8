/-
**Screens.**

There are four screens for a model: the list of its items, the details of one, and screens to
create and to edit one.  Screens use the service and the widgets of the model and lead to each
other.  Items are told apart by a whole number, which is the value of the model's key.

Main definitions:

* `Dart.ScreenKind` — the four kinds, with the screens and widgets that each one uses;
* `Dart.Screen`, `Dart.screen` — what a screen consists of, and the one of a model;
* `Dart.screenWarnings` — what is odd about the key of a model.
-/

import DartScaffold.Dart.Field
import DartScaffold.Dart.Widget

set_option relaxedAutoImplicit false
set_option autoImplicit false

namespace DartScaffold.Dart

/-! ### Kinds -/

/-- The kinds of screens. -/
inductive ScreenKind where
  | list
  | detail
  | create
  | edit
deriving DecidableEq, Repr, Inhabited

namespace ScreenKind

/-- The name of a kind. -/
def name : ScreenKind → String
  | .list => "list"
  | .detail => "detail"
  | .create => "create"
  | .edit => "edit"

/-- The kinds in their usual order. -/
def all : List ScreenKind := [.list, .detail, .create, .edit]

/-- The kind that a value names. -/
def ofDatum (d : Datum) : Except Fault ScreenKind :=
  match all.find? fun k => d.same (.text k.name) with
  | some k => .ok k
  | none => .error (.variant "screen" d (all.map name))

/-- The screens that a screen leads to. -/
def links : ScreenKind → List ScreenKind
  | .list => [.detail, .create, .edit]
  | .detail => [.edit]
  | .create | .edit => []

/-- The widgets that a screen uses. -/
def widgets : ScreenKind → List WidgetKind
  | .list => [.list]
  | .detail => []
  | .create | .edit => [.form]

/-- The title of a screen. -/
def title (m : Model) : ScreenKind → String
  | .list => Naming.title (Naming.pluralize (Naming.snake m.className))
  | .detail => Naming.title m.className ++ " Details"
  | .create => "Create " ++ Naming.title m.className
  | .edit => "Edit " ++ Naming.title m.className

/-- The comment of a screen. -/
def comment (model : String) : ScreenKind → String
  | .list => "Lists every " ++ model ++ " with create, edit and delete actions."
  | .detail => "Shows a single " ++ model ++ " loaded by id."
  | .create => "Creates a new " ++ model ++ "."
  | .edit => "Edits an existing " ++ model ++ "."

end ScreenKind

/-! ### Screens -/

/-- A line of the details. -/
structure DetailRow where
  label : String
  expression : String
deriving DecidableEq, Repr, Inhabited

/-- What a screen consists of. -/
structure Screen where
  kind : ScreenKind
  name : String
  model : String
  serviceName : String
  title : String
  label : String
  imports : List String
  rows : List DetailRow
  /-- The field that holds the number of an item, if the key is a whole number. -/
  idField : Option String
  idNullable : Bool
  mark : String
  /-- The words before the declaration of the service. -/
  serviceWords : String
  comment : String
deriving DecidableEq, Repr, Inhabited

namespace Screen

/-- The expression for the number of the item `receiver`. -/
def idExpression (s : Screen) (receiver : String) : String :=
  match s.idField with
  | none => "0"
  | some f =>
    let access := receiver ++ "." ++ f
    if s.idNullable then "(" ++ access ++ " ?? 0)" else access

/-- The name of another screen of the model. -/
def screenName (s : Screen) (kind : String) : String := s.model ++ Naming.pascal kind ++ "Screen"

/-- The name of a widget of the model. -/
def widgetName (s : Screen) (kind : String) : String := s.model ++ Naming.pascal kind

/-- A line of the details as a value in templates. -/
def rowValue (r : DetailRow) : Template.Value :=
  .record (recordName "screen" "DetailRow") none
    [("label", .text r.label), ("expression", .text r.expression)] []

/-- A screen as a value in templates. -/
def value (s : Screen) : Template.Value :=
  .record (recordName "screen" "DartScreenSpec") none [
    ("screen_type", .text s.kind.name), ("class_name", .text s.name),
    ("model_class", .text s.model), ("service_class", .text s.serviceName),
    ("title", .text s.title), ("label", .text s.label), ("imports", .texts s.imports),
    ("rows", .list (s.rows.map rowValue)), ("id_field", .optional s.idField),
    ("id_nullable", .flag s.idNullable), ("nullable_suffix", .text s.mark),
    ("service_modifier", .text s.serviceWords), ("doc", .text s.comment)] [
    ("id_expression", .function s.idExpression), ("screen_class", .function s.screenName),
    ("widget_class", .function s.widgetName)]

end Screen

/-- The file name of a screen. -/
def screenStem (m : Model) (kind : ScreenKind) : String :=
  modelStem m.className ++ "_" ++ kind.name ++ "_screen"

/-- The lines that import what a screen uses. -/
def screenImports (o : OutputSettings) (m : Model) (kind : ScreenKind) : List String :=
  let paths :=
    (if kind = .create then [] else [modelImport o .screens m.className]) ++
    [transportImport o .screens, serviceImport o .screens m.className] ++
    (kind.widgets.map fun w => importPath o .screens .widgets (widgetStem m w)) ++
    kind.links.map fun k => importPath o .screens .screens (screenStem m k)
  ["import 'package:flutter/material.dart';", ""] ++ paths.map fun p => "import '" ++ p ++ "';"

/-- The field of a model's key, if it is a whole number. -/
def keyField? (c : Context) (m : Model) : Option Field :=
  ((fields c m).find? fun f => f.jsonKey.same m.primaryKey).filter
    fun f => f.target == .int

/-- The screen of a kind for a model. -/
def screen (c : Context) (m : Model) (kind : ScreenKind) : Screen :=
  let model := c.typeName m
  let key := keyField? c m
  { kind := kind
    name := model ++ Naming.pascal kind.name ++ "Screen"
    model := model
    serviceName := model ++ "Service"
    title := kind.title m
    label := Naming.title m.className
    imports := screenImports c.settings.output m kind
    rows :=
      if kind = .detail then
        (fields c m).map fun f => ⟨f.label, displayExpression "item" f⟩
      else []
    idField := key.map Field.name
    idNullable := key.any Field.nullable
    mark := c.mark
    serviceWords := if c.nullSafe then "late final " else ""
    comment := c.comment 0 (kind.comment model) }

/-- What is odd about the key of a model: a screen that needs the number of an item has none. -/
def screenWarnings (c : Context) (m : Model) (kind : ScreenKind) : List String :=
  if (kind = .list ∨ kind = .edit) ∧ (keyField? c m).isNone then
    [m.className ++ " has no integer '" ++ m.primaryKey.display ++ "' attribute; " ++ kind.name ++
      " screen uses 0 as the id"]
  else []

end DartScaffold.Dart
