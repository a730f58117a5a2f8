/-
**Models as documents.**

What is known about a model can be looked at as a document.  A record is an object of what it is
made of and what follows from that.  A mapping is a list of pairs, because its order counts; a set
is a list ordered by the kind of its members and then by their text.

Main definitions:

* `Datum.pairs`, `Datum.ofSet` — mappings and sets as lists;
* `Attribute.document`, `Relationship.document`, `Route.document`, `Model.document` — the parts of
  a model, and a model.
-/

import DartScaffold.Schema.Model

set_option relaxedAutoImplicit false
set_option autoImplicit false

namespace DartScaffold

/-! ### Mappings and sets -/

namespace Datum

mutual

/-- A value in which every object is a list of pairs. -/
def pairs : Datum → Datum
  | .list ds => .list (pairsOfItems ds)
  | .object ms => .list (pairsOfMembers ms)
  | d => d

def pairsOfItems : List Datum → List Datum
  | [] => []
  | d :: rest => pairs d :: pairsOfItems rest

def pairsOfMembers : List (String × Datum) → List Datum
  | [] => []
  | (k, d) :: rest => .list [.text k, pairs d] :: pairsOfMembers rest

end

/-- Whether a member of a set comes before another, or neither does. -/
def precedes (a b : Datum) : Bool :=
  a.kindName < b.kindName || (a.kindName == b.kindName && a.display ≤ b.display)

/-- A set as an ordered list. -/
def ofSet (ds : List Datum) : Datum := .list ((ds.mergeSort precedes).map pairs)

/-- A mapping as a list of pairs. -/
def ofEntries {α : Type} (f : α → Datum) (entries : Entries String α) : Datum :=
  .list (entries.map fun (k, a) => .list [.text k, f a])

/-- A mapping of values as a list of pairs, with the keys as texts. -/
def ofKeyed {α : Type} (f : α → Datum) (entries : Entries Datum α) : Datum :=
  .list (entries.map fun (k, a) => .list [.text k.display, f a])

end Datum

/-! ### The parts of a model -/

/-- A column as a document. -/
def Attribute.document (a : Attribute) : Datum :=
  .object [
    ("name", a.name.pairs), ("target_type", .text a.target.name), ("source_type", a.source.pairs),
    ("nullable", .bool a.nullable), ("default_value", a.default)]

/-- A relation as a document. -/
def Relationship.document (r : Relationship) : Datum :=
  .object [
    ("accessor_name", .text r.accessor), ("relation_kind", r.kind.pairs),
    ("related_type_name", .text r.related), ("related_class_name", .text r.relatedName),
    ("foreign_key", r.foreignKey.pairs), ("local_key", r.localKey.pairs)]

/-- An endpoint as a document. -/
def Endpoint.document (e : Endpoint) : Datum :=
  .object [("kind", .text e.kind), ("tag", .text e.tag), ("is_standard", .bool e.isStandard)]

/-- A parameter as a document. -/
def PathParameter.document (p : PathParameter) : Datum :=
  .object [
    ("name", .text p.name), ("required", .bool p.required), ("inferred_type", .text p.type.name)]

/-- What a route is beside its endpoint. -/
def Route.members (r : Route) : List (String × Datum) := [
  ("uri", .text r.uri), ("http_methods", .ofTexts r.methods),
  ("primary_http_method", .text r.primary), ("name", r.name.pairs),
  ("controller_action", r.controller.pairs), ("action_name", .ofText? r.action),
  ("path_parameters", .list (r.parameters.map PathParameter.document)),
  ("middleware", .ofSet r.middleware), ("resource_name", .ofText? r.resource),
  ("is_api_route", .bool r.isApi), ("requires_auth", .bool r.requiresAuth),
  ("has_path_parameters", .bool !r.parameters.isEmpty)]

/-- A route as a document. -/
def Route.document (r : Route) : Datum :=
  .object (r.members ++ [("endpoint_type", r.endpoint.document)])

/-! ### Models -/

/-- A model as a document. -/
def Model.document (m : Model) : Datum :=
  .object [
    ("class_name", .text m.className), ("fully_qualified_name", .text m.qualifiedName),
    ("table_name", m.table.pairs), ("primary_key", m.primaryKey.pairs),
    ("attributes", .ofKeyed Attribute.document m.attributes),
    ("relationships", .ofEntries Relationship.document m.relationships),
    ("validation_rules", .ofEntries .text m.rules), ("fillable", .ofSet m.fillable),
    ("guarded", .ofSet m.guarded), ("hidden", .ofSet m.hidden),
    ("casts", .ofKeyed Datum.pairs m.casts), ("date_attributes", .ofSet m.dates),
    ("has_timestamps", .bool m.hasTimestamps), ("has_soft_delete", .bool m.hasSoftDelete),
    ("routes", .list (m.routes.map Route.document)),
    ("custom_routes", .ofTexts (m.customRoutes.map Route.uri))]

end DartScaffold
