/-
**Manifests.**

A manifest is a document that describes a backend: its tables, its models and its routes.  The
tables and routes are looked at when the manifest is read, a model only when it is asked for; so
a manifest with one model of a wrong form can still be used for the others.

Main definitions:

* `Backend.Manifest`, `Backend.Manifest.ofDocument` — a manifest and how it is read;
* `Backend.Manifest.modelNames`, `Backend.Manifest.model` — the models;
* `Backend.Manifest.entryOf` — a route entry;
* `Backend.Manifest.column` — a column by its table and name.

Main results:

* `Backend.Manifest.ofDocument_of_not_object` — only an object is a manifest.
-/

import DartScaffold.Backend.View
import DartScaffold.Routing.Analysis

set_option relaxedAutoImplicit false
set_option autoImplicit false

namespace DartScaffold.Backend

/-- A backend that is described by a document. -/
structure Manifest where
  /-- Where the document came from. -/
  source : String
  schema : Schema
  models : Datum
  routes : List Routing.Entry

namespace Manifest

/-! ### Tables -/

/-- A column as the manifest describes it: a text without a type, and not null unless it says
so. -/
def columnOf (members : List (String × Datum)) : Column where
  type := .text ((members.lookup "type").getD (.text "string")).display
  nullable := ((members.lookup "nullable").getD (.bool false)).truthy
  default := (members.lookup "default").getD .null

/-- The columns of a table by name; of two with the same name the later counts. -/
def columnsOf (columns : Datum) : Except Misuse (Entries Datum Column) := do
  (← columns.items).foldlM (fun read d => do
    let name ← d.member "name"
    if !name.hashable then throw (.unhashable name.kindName)
    let members ← d.membersFor "get"
    return Datum.putEntry name (columnOf members) read) []

/-- The tables by name. -/
def schemaOf (tables : Datum) : Except Misuse Schema := do
  return .ofTables (← (← tables.membersFor "items").mapM fun (name, columns) =>
    return (name, ← columnsOf columns))

/-! ### Routes -/

/-- The methods of a route entry, under one of two names; a single one may stand alone. -/
def methodsOf (d : Datum) : Except Misuse Datum := do
  let given := (← d.memberFor "methods" .null).orElse
    ((← d.memberFor "method" .null).orElse (.list [.text "GET"]))
  let items ←
    match given with
    | .text s => pure [.text s]
    | g => g.items
  return .list (← items.mapM fun m => return .text (Text.upper (← m.textFor "upper")))

/-- The action of a route entry, with the controller as a member. -/
def actionOf (d : Datum) : Except Misuse Datum := do
  match ← d.memberFor "action" .null with
  | .object members => return .object members
  | action => return if action.truthy then .object [("controller", action)] else .object []

/-- An entry of the route table. -/
def entryOf (d : Datum) : Except Fault Routing.Entry := do
  if !(← (Datum.holds (.text "uri") d : Except Misuse Bool)) then
    throw (.description (.routeWithoutUri d.display))
  return {
    uri := d.member "uri"
    methods := methodsOf d
    name := d.memberFor "name" .null
    action := actionOf d
    middleware := do return .list (← (← d.memberFor "middleware" (.list [])).items)
    parameters := do
      match ← (d.member "uri" : Except Misuse Datum) with
      | .text uri => return .list ((Routing.placeholders uri).map .text)
      | uri => throw (.misuse (.unfit
          ("expected string or bytes-like object, got '" ++ uri.kindName ++ "'"))) }

/-! ### The document -/

/-- The manifest that a document is. -/
def ofDocument (source : String) (d : Datum) : Except Fault Manifest := do
  match d with
  | .object members =>
    let schema ← schemaOf ((members.lookup "tables").getD (.object []))
    let entries ← (((members.lookup "routes").getD (.list [])).items : Except Misuse _)
    return {
      source := source
      schema := schema
      models := (members.lookup "models").getD (.object [])
      routes := ← entries.mapM entryOf }
  | _ => throw (.description (.notObject source))

/-- Only an object is a manifest. -/
theorem ofDocument_of_not_object (source : String) {d : Datum}
    (h : ∀ members, d ≠ .object members) :
    ofDocument source d = .error (.description (.notObject source)) := by
  cases d <;> first | rfl | exact absurd rfl (h _)

/-- A column by its table and name. -/
def column (m : Manifest) (table name : Datum) : Except Fault Column := do
  let unknown : Fault := .description (.unknownColumn table.display name.display)
  if !(← (m.schema.hasTable table : Except Misuse Bool)) then throw unknown
  if !name.hashable then throw (.misuse (.unhashable name.kindName))
  match Datum.valueAt? name (m.schema.columns table) with
  | some c => return c
  | none => throw unknown

/-! ### Models -/

/-- The names of the models in order. -/
def modelNames (m : Manifest) : Except Misuse (List Datum) := do Datum.ordered (← m.models.items)

/-- A section of a model's entry: an object, or nothing. -/
def sectionOf (name : Datum) (key : String) (d : Datum) :
    Except Fault (List (String × Datum)) := do
  let value ← (d.memberFor key .null : Except Misuse Datum)
  match value.orElse (.object []) with
  | .object members => return members
  | v => throw (.description (.sectionNotObject key name.display v.kindName))

/-- A member of an entry as a list. -/
def listOf (key : String) (d : Datum) : Except Misuse Datum := do
  return .list (← (← d.memberFor key (.list [])).items)

/-- The model of an entry. -/
def viewOf (name d : Datum) : ModelView where
  name := do return (← (d.memberFor "class" .null : Except Misuse Datum)).orElse name
  className := "ManifestModel"
  table := do
    let table ← (d.memberFor "table" .null : Except Misuse Datum)
    if table.truthy then return table
    return .text (Text.lower (← (name.textFor "lower" : Except Misuse String)) ++ "s")
  keyName := d.memberFor "primary_key" (.text "id")
  fillable := listOf "fillable" d
  guarded := listOf "guarded" d
  hidden := listOf "hidden" d
  casts := do return .object (← sectionOf name "casts" d)
  dates := listOf "dates" d
  softDelete := do
    return .bool (← (d.memberFor "soft_deletes" (.bool false) : Except Misuse Datum)).truthy
  timestamps := do
    return .bool (← (d.memberFor "timestamps" (.bool true) : Except Misuse Datum)).truthy
  rules := do return .object (← sectionOf name "rules" d)
  declared := do
    return .entries ((← sectionOf name "relationships" d).map fun e => (e.1, .value e.2))
  members := []

/-- The first entry whose class has a name. -/
def findClass (name : Datum) : List (String × Datum) → Except Misuse (Option (String × Datum))
  | [] => .ok none
  | (key, d) :: rest => do
    if (← d.memberFor "class" .null).same name then return some (key, d)
    findClass name rest

/-- The model of a name: the entry under it, or else the first one whose class has the name. -/
def model (m : Manifest) (name : Datum) : Except Fault ModelView := do
  if ← (Datum.holds name m.models : Except Misuse Bool) then
    return viewOf name (← (Datum.partAt name m.models : Except Misuse Datum))
  let members ← (m.models.membersFor "items" : Except Misuse _)
  match ← (findClass name members : Except Misuse _) with
  | some (key, d) => return viewOf (.text key) d
  | none => throw (.model (.notDescribed name.display m.source))

end Manifest

end DartScaffold.Backend
