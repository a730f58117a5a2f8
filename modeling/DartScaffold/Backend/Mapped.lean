/-
**Mapped models.**

A backend may map its models to the tables of a database: each model has a table, typed columns, and
relations to other models that follow the foreign keys.  Everything about such a model is read off
the mapping, but for what the model says itself about filling, hiding, casting and rules.

Main definitions:

* `Backend.MappedColumn`, `Backend.MappedRelation`, `Backend.MappedModel`, `Backend.Mapping` — a
  mapping;
* `Backend.Mapping.tables` — the tables that a mapping makes;
* `Backend.Mapping.relationOf` — a relation by the foreign keys that it follows;
* `Backend.Mapping.viewOf`, `Backend.Mapping.backend` — the models as a backend shows them.
-/

import DartScaffold.Backend.Basic
import DartScaffold.Database.Table
import DartScaffold.Datum.Mapping

set_option relaxedAutoImplicit false
set_option autoImplicit false

namespace DartScaffold.Backend

/-! ### Mappings -/

/-- A column of a mapped model. -/
structure MappedColumn where
  name : String
  type : SqlType
  nullable : Bool
  isKey : Bool
  /-- The table and the column that the column points to. -/
  target : Option (String × String)
  default : Option String
deriving Repr, Inhabited

/-- A relation of a mapped model. -/
structure MappedRelation where
  name : String
  target : String
  /-- Whether it leads to many models, as far as the model says so. -/
  toMany : Bool
  /-- Whether a table of its own links the models. -/
  linked : Bool
deriving Repr, Inhabited

/-- A mapped model. -/
structure MappedModel where
  name : String
  table : String
  columns : List MappedColumn
  relations : List MappedRelation
  /-- What the model says itself; none, if it does not. -/
  fillable : Option Datum
  guarded : Option Datum
  hidden : Option Datum
  casts : Option Datum
  rules : Option Datum
  fallbackRules : Option Datum
deriving Repr, Inhabited

/-- The mapped models of a module, and the tables that link them. -/
structure Mapping where
  module : String
  models : List MappedModel
  links : Entries String (List MappedColumn)
deriving Repr, Inhabited

namespace Mapping

/-! ### Tables -/

/-- A column as a table keeps it: a default is a quoted text. -/
def tableColumn (c : MappedColumn) : Database.TableColumn where
  name := c.name
  type := c.type.written
  nullable := c.nullable
  default := c.default.map fun s =>
    "'" ++ Text.join "''" (Text.split '\'' s) ++ "'"

/-- The tables that a mapping makes. -/
def tables (m : Mapping) : Database.Tables :=
  (m.links ++ m.models.map fun model => (model.table, model.columns)).map fun (name, columns) =>
    (name, columns.map tableColumn)

/-! ### Relations -/

/-- The model of a name. -/
def named? (m : Mapping) (name : String) : Option MappedModel :=
  m.models.find? fun model => model.name == name

/-- The qualified name of a model. -/
def qualified (m : Mapping) (name : String) : String := m.module ++ "." ++ name

/-- The first column that points to a table, and the column that it points to. -/
def pointer? (columns : List MappedColumn) (table : String) : Option (String × String) :=
  columns.findSome? fun c =>
    match c.target with
    | some (t, column) => if t = table then some (c.name, column) else none
    | none => none

/-- What a relation is: its kind, and the foreign and the local key. -/
def relationOf (source target : MappedModel) (r : MappedRelation) :
    Option (String × Datum × Datum) :=
  if r.linked then some ("BelongsToMany", .null, .null)
  else
    let outward :=
      if source.table = target.table then none else pointer? source.columns target.table
    match outward, pointer? target.columns source.table with
    | some (key, column), _ => some ("BelongsTo", .text key, .text column)
    | none, some (key, column) =>
      some (if r.toMany then "HasMany" else "HasOne", .text key, .text column)
    | none, none => none

/-- A relation as a model declares it. -/
def declaredOf (m : Mapping) (source : MappedModel) (r : MappedRelation) :
    Except Fault (String × RelationEntry) :=
  let found := do
    let target ← m.named? r.target
    relationOf source target r
  match found with
  | some (kind, foreignKey, localKey) =>
    .ok (r.name, .value (.object [
      ("kind", .text kind), ("related", .text (m.qualified r.target)),
      ("foreign_key", foreignKey), ("local_key", localKey)]))
  | none =>
    .error (.raised ("Could not determine join condition between parent/child tables on " ++
      "relationship " ++ source.name ++ "." ++ r.name))

/-! ### Models -/

/-- The columns that are managed by the backend. -/
def managed : List String := ["created_at", "updated_at", "deleted_at"]

/-- The columns that may be filled if the model does not say: all but keys and managed ones. -/
def usualFillable (model : MappedModel) : List String :=
  (model.columns.filter fun c => !c.isKey && !managed.contains c.name).map MappedColumn.name

/-- What a model says, as a list. -/
def listed (said : Option Datum) : Except Fault Datum := do
  return .list (← ((said.getD (.list [])).items : Except Misuse _))

/-- What a model says, as a mapping. -/
def mapped (said : Option Datum) : Except Fault Datum := do
  let entries ← ((said.getD (.object [])).mapping : Except Misuse _)
  return .object (entries.map fun (k, d) => (k.display, d))

/-- A mapped model as a backend shows it. -/
def viewOf (m : Mapping) (model : MappedModel) : ModelView :=
  let names := model.columns.map MappedColumn.name
  let has (name : String) : Bool := names.contains name
  { name := .ok (.text (m.qualified model.name))
    className := model.name
    table := .ok (.text model.table)
    keyName := .ok (.text
      (((model.columns.find? MappedColumn.isKey).map MappedColumn.name).getD "id"))
    fillable :=
      match model.fillable with
      | none => .ok (.list ((usualFillable model).map .text))
      | some .null => .ok (.list ((usualFillable model).map .text))
      | said => listed said
    guarded := listed model.guarded
    hidden := listed model.hidden
    casts := mapped model.casts
    dates := .ok (.list ((model.columns.filter fun c =>
      c.type.portable = "date" ∨ c.type.portable = "datetime").map fun c => .text c.name))
    softDelete := .ok (.bool (has "deleted_at"))
    timestamps := .ok (.bool (has "created_at" && has "updated_at"))
    rules :=
      match model.rules with
      | some (.object members) => .ok (.object members)
      | _ => mapped model.fallbackRules
    declared := do return .entries (← model.relations.mapM (declaredOf m model))
    members := [] }

/-- The model of a name: its own, or the qualified one. -/
def model (m : Mapping) (name : String) : Except Fault ModelView :=
  match m.models.find? fun model => model.name == name || m.qualified model.name == name with
  | some model => .ok (m.viewOf model)
  | none => .error (.model (.notMapped name))

/-- The mapped models with the tables of a database. -/
def backend (m : Mapping) (schema : Except SchemaFault Schema) (routes : List Routing.Entry) :
    Backend where
  schema := schema
  names := .ok (((m.models.map MappedModel.name).mergeSort fun a b => a ≤ b).map .text)
  model := m.model
  routes := routes

end Mapping

end DartScaffold.Backend
