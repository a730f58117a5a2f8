/-
**What is known about a model.**

A model has a name, a table with columns, relations to other models, and routes.  This module
holds the descriptions of these that the analyses make and the generators read.

Main definitions:

* `Attribute`, `Relationship`, `Endpoint`, `PathParameter`, `Route` — the parts;
* `Model` — the description of a model;
* `Model.customRoutes` — the routes beyond the five usual operations.
-/

import DartScaffold.Datum.Keys
import DartScaffold.Naming.Unqualified
import DartScaffold.Schema.ColumnType

set_option relaxedAutoImplicit false
set_option autoImplicit false

namespace DartScaffold

/-! ### Columns and relations -/

/-- A column of a model's table. -/
structure Attribute where
  name : Datum
  target : ColumnType
  /-- The type as the database names it. -/
  source : Datum
  nullable : Bool
  default : Datum
deriving Repr, Inhabited

/-- A relation to another model. -/
structure Relationship where
  accessor : String
  kind : Datum
  /-- The qualified name of the other model. -/
  related : String
  foreignKey : Datum
  localKey : Datum
deriving Repr, Inhabited

/-- The unqualified name of the other model. -/
def Relationship.relatedName (r : Relationship) : String := Naming.unqualified r.related

/-! ### Routes -/

/-- One of the five usual operations on a collection. -/
inductive Operation where
  | index
  | show
  | store
  | update
  | destroy
deriving DecidableEq, Repr, Inhabited

/-- The name of an operation. -/
def Operation.name : Operation → String
  | .index => "index"
  | .show => "show"
  | .store => "store"
  | .update => "update"
  | .destroy => "destroy"

/-- The five operations. -/
def Operation.all : List Operation := [.index, .show, .store, .update, .destroy]

/-- What a route does: a usual operation, or another one under a name of its own. -/
inductive Endpoint where
  | standard (operation : Operation)
  | other (tag : String)
deriving DecidableEq, Repr, Inhabited

namespace Endpoint

/-- The name of the kind of endpoint. -/
def kind : Endpoint → String
  | .standard operation => operation.name
  | .other _ => "other"

/-- The name under which the endpoint is called. -/
def tag : Endpoint → String
  | .standard operation => operation.name
  | .other tag => tag

/-- Whether it is one of the usual operations. -/
def isStandard : Endpoint → Bool
  | .standard _ => true
  | .other _ => false

/-- The written endpoint. -/
def text : Endpoint → String
  | .standard operation => operation.name
  | .other tag => "other(" ++ tag ++ ")"

end Endpoint

/-- The type of a parameter in the path of a route. -/
inductive ParameterType where
  | int
  | string
deriving DecidableEq, Repr, Inhabited

/-- The name of a parameter's type. -/
def ParameterType.name : ParameterType → String
  | .int => "int"
  | .string => "string"

/-- A placeholder in the path of a route. -/
structure PathParameter where
  name : String
  required : Bool
  type : ParameterType
deriving DecidableEq, Repr, Inhabited

/-- What is known about a route. -/
structure Route where
  uri : String
  methods : List String
  primary : String
  endpoint : Endpoint
  name : Datum
  /-- The controller with its action, as the backend names them. -/
  controller : Datum
  action : Option String
  parameters : List PathParameter
  /-- The middleware, each once. -/
  middleware : List Datum
  resource : Option String
  isApi : Bool
  requiresAuth : Bool
deriving Repr, Inhabited

/-! ### Models -/

/-- What is known about a model. -/
structure Model where
  className : String
  qualifiedName : String
  table : Datum
  primaryKey : Datum
  attributes : Entries Datum Attribute
  relationships : Entries String Relationship
  rules : Entries String String
  /-- The columns that may be filled, each once; likewise for the next two. -/
  fillable : List Datum
  guarded : List Datum
  hidden : List Datum
  casts : Entries Datum Datum
  dates : List Datum
  hasTimestamps : Bool
  hasSoftDelete : Bool
  routes : List Route
deriving Repr, Inhabited

/-- The model with routes attached to it. -/
def Model.withRoutes (m : Model) (routes : List Route) : Model := { m with routes := routes }

/-- The routes beyond the five usual operations. -/
def Model.customRoutes (m : Model) : List Route :=
  m.routes.filter fun r => !r.endpoint.isStandard

end DartScaffold
