/-
**Models from documents.**

A model can be described by hand, in a document that says as much as is wanted.  What it leaves out
is as usual: a table of things with a key called `id`, columns of texts, relations to many, and
routes for reading.  Names cannot be left out, nor can the other side of a relation; and a type or a
kind has to be one of those there are.

Main definitions:

* `Route.ofDocument`, `Model.ofDocument` — a route and a model as described.
-/

import DartScaffold.Datum.Use
import DartScaffold.Schema.Model

set_option relaxedAutoImplicit false
set_option autoImplicit false

namespace DartScaffold

/-! ### Members of a description -/

namespace Datum

/-- The member of a name; a usual value, if there is none. -/
def memberOr (d : Datum) (key : String) (usual : Datum) : Datum := (d.member? key).getD usual

/-- The member of a name as a text. -/
def textOr (d : Datum) (key usual : String) : String := (d.memberOr key (.text usual)).display

/-- The member of a name as a text; there has to be one. -/
def textAt (d : Datum) (key : String) : Except Fault String := do
  return (← (d.member key : Except Misuse Datum)).display

/-- The items of the list of a name. -/
def itemsOf (d : Datum) (key : String) : List Datum :=
  match d.member? key with
  | some (.list ds) => ds
  | _ => []

/-- The members of the object of a name. -/
def membersOf (d : Datum) (key : String) : List (String × Datum) :=
  match d.member? key with
  | some (.object ms) => ms
  | _ => []

end Datum

/-! ### The parts of a model -/

/-- The one of some values whose name a member is, or the usual one if there is no such member. -/
def Datum.oneOf {α : Type} (d : Datum) (key : String) (usual : α) (named : String → Option α) :
    Except Fault α :=
  match d.member? key with
  | none => .ok usual
  | some (.text s) =>
    match named s with
    | some a => .ok a
    | none => .error (.badValue (Text.quoted s ++ " is none of those allowed"))
  | some other => .error (.badValue (other.quoted ++ " is none of those allowed"))

/-- The operation of a name, or none if the name is that of other endpoints. -/
def Operation.named? (name : String) : Option (Option Operation) :=
  if name = "other" then some none
  else (Operation.all.find? fun o => o.name == name).map some

/-- The endpoint of a kind, or another one with a tag. -/
def Endpoint.ofDocument (d : Datum) : Except Fault Endpoint := do
  match ← d.oneOf "kind" none Operation.named? with
  | some operation => return .standard operation
  | none => return .other (d.textOr "tag" "")

/-- The type of parameters of a name. -/
def ParameterType.named? (name : String) : Option ParameterType :=
  [ParameterType.int, .string].find? fun t => t.name == name

/-- A parameter as described. -/
def PathParameter.ofDocument (d : Datum) : Except Fault PathParameter := do
  return {
    name := ← d.textAt "name"
    required := (d.memberOr "required" (.bool true)).truthy
    type := ← d.oneOf "type" .string ParameterType.named? }

/-- A route as described. -/
def Route.ofDocument (d : Datum) : Except Fault Route := do
  let primary := d.textOr "primary" "GET"
  return {
    uri := ← d.textAt "uri"
    methods := if (d.member? "methods").isSome then (d.itemsOf "methods").map Datum.display
      else [primary]
    primary := primary
    endpoint := ← Endpoint.ofDocument d
    name := .null
    controller := .null
    action := none
    parameters := ← (d.itemsOf "params").mapM PathParameter.ofDocument
    middleware := []
    resource := none
    isApi := false
    requiresAuth := false }

/-- A column as described. -/
def Attribute.ofDocument (d : Datum) : Except Fault Attribute := do
  return {
    name := ← (d.member "name" : Except Misuse Datum)
    target := ← d.oneOf "target" .string ColumnType.ofName?
    source := d.memberOr "source" (.text "")
    nullable := (d.memberOr "nullable" (.bool false)).truthy
    default := d.memberOr "default" .null }

/-- A column as described, under the key that it has. -/
def Attribute.entryOf (d : Datum) : Except Fault (Datum × Attribute) := do
  let a ← Attribute.ofDocument d
  let key := d.memberOr "key" a.name
  if !key.hashable then throw (.misuse (.unhashable key.kindName))
  return (key, a)

/-- A relation as described. -/
def Relationship.ofDocument (d : Datum) : Except Fault Relationship := do
  return {
    accessor := ← d.textAt "accessor"
    kind := d.memberOr "kind" (.text "HasMany")
    related := ← d.textAt "related"
    foreignKey := d.memberOr "foreign_key" .null
    localKey := d.memberOr "local_key" .null }

/-! ### Models -/

/-- The set that a member is; one that is left out is empty. -/
def Datum.setAt (d : Datum) (key : String) : Except Fault (List Datum) :=
  ((d.memberOr key (.list [])).elements : Except Misuse _)

/-- A model as described. -/
def Model.ofDocument (d : Datum) : Except Fault Model := do
  let name ← d.textAt "class_name"
  let relations ← (d.itemsOf "relationships").mapM Relationship.ofDocument
  return {
    className := name
    qualifiedName := d.textOr "fqn" name
    table := d.memberOr "table" (.text "things")
    primaryKey := d.memberOr "primary_key" (.text "id")
    attributes := Datum.entriesOf (← (d.itemsOf "attributes").mapM Attribute.entryOf)
    relationships := Entries.ofPairs (relations.map fun r => (r.accessor, r))
    rules := (d.membersOf "rules").map fun (key, rule) => (key, rule.display)
    fillable := ← d.setAt "fillable"
    guarded := ← d.setAt "guarded"
    hidden := ← d.setAt "hidden"
    casts := (d.membersOf "casts").map fun (key, cast) => (.text key, cast)
    dates := []
    hasTimestamps := true
    hasSoftDelete := false
    routes := ← (d.itemsOf "routes").mapM Route.ofDocument }

end DartScaffold
