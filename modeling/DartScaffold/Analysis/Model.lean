/-
**The analysis of a model.**

The description of a model is put together from what the backend shows of it.  Its columns come
from its table, in order; a table that is missing leaves the model without columns, unless the
settings are strict.  Its relations are those it declares, or, where the settings ask for it, those
found by trying the accessors of its class.

Main definitions:

* `Analysis.attributesOf` — the columns;
* `Analysis.relationsOf` — the relations, declared or found by trying;
* `Analysis.rulesOf` — the rules as texts;
* `Analysis.analyze` — the description of a model.
-/

import DartScaffold.Backend.View
import DartScaffold.Datum.Mapping
import DartScaffold.Session
import DartScaffold.Settings.Basic

set_option relaxedAutoImplicit false
set_option autoImplicit false

namespace DartScaffold.Analysis

open Backend

/-! ### Columns -/

/-- The attribute of a column. -/
def attributeOf (name : Datum) (c : Column) : Attribute where
  name := name
  target := .ofSource c.type
  source := c.type
  nullable := c.nullable
  default := c.default

/-- The columns of the model's table as attributes. -/
def attributesOf (schema : Except SchemaFault Schema) (options : AnalysisSettings) (v : ModelView) :
    Run (Entries Datum Attribute) := do
  match schema with
  | .error fault => throw (.schema (fault.about ((v.table.toOption.getD .null).display)))
  | .ok schema =>
    let table ← (v.table : Except Fault Datum)
    if ← (schema.hasTable table : Except Misuse Bool) then
      return (schema.columns table).map fun (name, c) => (name, attributeOf name c)
    if options.strict.truthy then throw (.schema (.missingTable table.display))
    let name ← (v.name : Except Fault Datum)
    Run.warn ((SchemaFault.missingTable table.display).message ++ "; generating " ++
      name.display ++ " without attributes")
    return []

/-! ### Relations -/

/-- The relation that a declared entry describes; none, if it names no related model. -/
def relationOf? (accessor : String) (members : List (String × Datum)) : Option Relationship :=
  let get (key : String) : Datum := (members.lookup key).getD .null
  let related := (get "related").orElse (get "related_model")
  if related.truthy then
    some {
      accessor := accessor
      kind := (get "kind").orElse ((get "type").orElse (.text "Relation"))
      related := typeNameOf related
      foreignKey := get "foreign_key"
      localKey := get "local_key" }
  else none

/-- Adds a declared entry to the relations. -/
def addDeclared (v : ModelView) (relations : Entries String Relationship)
    (entry : String × RelationEntry) : Run (Entries String Relationship) := do
  match entry.2 with
  | .ready relation => return relations.put entry.1 relation
  | .value (.object members) =>
    match relationOf? entry.1 members with
    | some relation => return relations.put entry.1 relation
    | none =>
      Run.warn ("Relationship '" ++ entry.1 ++ "' declares no related model; skipped")
      return relations
  | .value d =>
    let name ← (v.name : Except Fault Datum)
    throw (.analysis (.relationNotObject entry.1 name.display d.kindName))

/-- The questions about a model; an accessor of such a name leads to no related model. -/
def questions : List String := [
  "get_table", "get_key_name", "get_fillable", "get_guarded", "get_hidden", "get_casts",
  "get_date_attributes", "has_soft_delete", "uses_timestamps", "get_model_name",
  "declared_relationships", "rules"]

/-- Whether a member is an accessor that is tried: a method of the class that takes no arguments,
with a public name that is no question. -/
def isProbed (name : String) (m : Member) : Bool :=
  !Text.startsWith "_" name && !questions.contains name &&
    match m with
    | .method .none _ => true
    | _ => false

/-- The relation that an accessor returned. -/
def foundRelation (accessor : String) (object : RelationObject) : Relationship where
  accessor := accessor
  kind := (object.kind.getD .null).orElse (.text object.className)
  related := typeNameOf object.related
  foreignKey := (object.foreignKeyName.or object.foreignKey).getD .null
  localKey := (object.localKeyName.or object.ownerKeyName).getD .null

/-- Tries an accessor.  One that fails is passed over, with a warning if the settings are
strict. -/
def probe (options : AnalysisSettings) (v : ModelView) (relations : Entries String Relationship)
    (m : String × Member) : Run (Entries String Relationship) := do
  if !isProbed m.1 m.2 then return relations
  match m.2 with
  | .method _ (.relation object) => return relations.put m.1 (foundRelation m.1 object)
  | .method _ (.fails reason) =>
    if options.strict.truthy then
      Run.warn ("Skipping accessor " ++ v.className ++ "." ++ m.1 ++ ": " ++ reason)
    return relations
  | _ => return relations

/-- The relations of a model. -/
def relationsOf (options : AnalysisSettings) (v : ModelView) :
    Run (Entries String Relationship) := do
  if !options.includeRelationships.truthy then return []
  match ← (v.declared : Except Fault Declared) with
  | .entries entries => entries.foldlM (addDeclared v) []
  | .other kind =>
    let name ← (v.name : Except Fault Datum)
    throw (.analysis (.relationsNotMapping name.display kind))
  | .nothing =>
    if options.probeAccessors.truthy then v.members.foldlM (probe options v) [] else return []

/-! ### Rules -/

/-- A rule as a text: the parts of a list are joined by bars. -/
def ruleText : Datum → String
  | .list parts => Text.join "|" (parts.map Datum.display)
  | d => d.display

/-- The rules as texts. -/
def rulesOf (v : ModelView) : Except Fault (Entries String String) := do
  let rules ← v.rules
  if !rules.truthy then return []
  return (← (rules.membersFor "items" : Except Misuse _)).map fun r => (r.1, ruleText r.2)

/-! ### The description -/

/-- The description of a model. -/
def analyze (schema : Except SchemaFault Schema) (options : AnalysisSettings) (v : ModelView) :
    Run Model := do
  let qualified ← (v.name : Except Fault Datum)
  let table ← (v.table : Except Fault Datum)
  let name ← (qualified.textFor "rsplit" : Except Misuse String)
  let key ← (v.keyName : Except Fault Datum)
  let attributes ← attributesOf schema options v
  let relationships ← relationsOf options v
  let rules ← (rulesOf v : Except Fault _)
  let fillable ← ((← (v.fillable : Except Fault Datum)).elementsOrNone : Except Misuse _)
  let guarded ← ((← (v.guarded : Except Fault Datum)).elementsOrNone : Except Misuse _)
  let hidden ← ((← (v.hidden : Except Fault Datum)).elementsOrNone : Except Misuse _)
  let casts ← ((← (v.casts : Except Fault Datum)).mappingOrNone : Except Misuse _)
  let dates ← ((← (v.dates : Except Fault Datum)).elementsOrNone : Except Misuse _)
  let timestamps ← (v.timestamps : Except Fault Datum)
  let softDelete ← (v.softDelete : Except Fault Datum)
  return {
    className := Naming.unqualified name
    qualifiedName := name
    table := table
    primaryKey := key.orElse (.text "id")
    attributes := attributes
    relationships := relationships
    rules := rules
    fillable := fillable
    guarded := guarded
    hidden := hidden
    casts := casts
    dates := dates
    hasTimestamps := timestamps.truthy
    hasSoftDelete := softDelete.truthy
    routes := [] }

end DartScaffold.Analysis
