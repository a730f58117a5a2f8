/-
**Routes and the resources they belong to.**

A backend lists its routes, each with a path, methods, a name, an action, middleware and
parameters.  From these a route is recognized as one of the usual operations on a resource, or as
another action; its parameters get types; and the routes of one resource are grouped together.
A route belongs to the resource that its name begins with, or else its path.

Main definitions:

* `Routing.Entry` — an entry of a backend's route table;
* `Routing.endpointOf`, `Routing.resourceOf`, `Routing.parameterType` — the rules;
* `Routing.endpointFor`, `Routing.resourceFor` — the same for a method and a path of any kind;
* `Routing.analyzeEntry`, `Routing.Analysis.ofEntries` — the description of one route and of
  several;
* `Routing.Subject`, `Routing.analyze` — what can be analyzed;
* `Routing.Analysis.routesForModel` — the routes of a model.

Main results:

* `Routing.resourceFor_text` — a text is taken as it is;
* `Routing.Analysis.routes_add` — an added route comes last.
-/

import DartScaffold.Datum.Use
import DartScaffold.Naming.Plural
import DartScaffold.Routing.Placeholder
import DartScaffold.Schema.Model

set_option relaxedAutoImplicit false
set_option autoImplicit false

namespace DartScaffold.Routing

/-! ### Entries of a route table -/

/-- An entry of a backend's route table: what it answers to each question about it. -/
structure Entry where
  uri : Except Fault Datum
  methods : Except Fault Datum
  name : Except Fault Datum
  action : Except Fault Datum
  middleware : Except Fault Datum
  parameters : Except Fault Datum

/-- What the paths of a programming interface begin with. -/
def apiRoot : String := "api/"

/-- The non-empty segments of a path. -/
def segments (path : String) : List String :=
  (Text.split '/' (Text.stripOf '/' path)).filter (· != "")

/-! ### The rules -/

/-- The part of a text before its first dot. -/
def beforeDot (s : String) : String := String.ofList (s.toList.takeWhile (· != '.'))

/-- The resource in a path: its first segment, or the one behind a leading `api`. -/
def resourceInPath (path : String) : Option String :=
  match segments path with
  | "api" :: rest => rest.head?
  | segments => segments.head?

/-- The resource of a route: what its name has before a dot, or else the one in its path. -/
def resourceOf (path : String) (name : Datum) : Except Misuse (Option String) := do
  if name.truthy then
    if ← Datum.holds (.text ".") name then return some (beforeDot (← name.textFor "split"))
  return resourceInPath path

/-- The resource of a route whose path may be any value; it is not looked at if the name tells. -/
def resourceFor (path name : Datum) : Except Misuse (Option String) := do
  match ← resourceOf "" name with
  | some resource => return some resource
  | none => return resourceInPath (← path.textFor "strip")

/-- A path that is a text is taken as it is. -/
theorem resourceFor_text (path : String) (name : Datum) :
    resourceFor (.text path) name = resourceOf path name := by
  unfold resourceFor resourceOf
  by_cases given : name.truthy = true
  · simp only [given, if_true]
    cases found : Datum.holds (.text ".") name with
    | error m => rfl
    | ok dotted =>
      cases dotted with
      | false => rfl
      | true => cases name.textFor "split" <;> rfl
  · simp only [given]
    rfl

/-- The action in the name of a controller, behind an at sign. -/
def actionOf (controller : Datum) : Except Misuse (Option String) := do
  if !controller.truthy then return none
  if !(← Datum.holds (.text "@") controller) then return none
  match Text.cut? "@" (← controller.textFor "split") with
  | some (_, "") => return none
  | some (_, action) => return some action
  | none => return none

/-- The type of a parameter: `id` and what ends in `_id` are whole numbers, and so is a parameter
named like one member of the resource; anything else is a text. -/
def parameterType (parameter : String) (resource : Option String) : ParameterType :=
  if parameter = "id" ∨ Text.endsWith "_id" parameter then .int
  else if Text.contains "uuid" parameter ∨ Text.contains "guid" parameter then .string
  else match resource with
    | some r =>
      if r ≠ "" ∧ parameter = Naming.singularize (Naming.snake r) then .int else .string
    | none => .string

/-- Methods that a route answers besides its own. -/
def secondaryMethods : List String := ["HEAD", "OPTIONS"]

/-- The first method that is not a secondary one. -/
def primaryMethod (methods : List String) : String :=
  match methods.filter fun m => !secondaryMethods.contains m with
  | m :: _ => m
  | [] => methods.headD "GET"

/-- Names of actions that say no more than the method does. -/
def usualActions : List String :=
  ["index", "show", "store", "update", "destroy", "other", "create", "edit"]

/-- Whether a text holds a brace that a placeholder begins with. -/
def hasBrace (s : String) : Bool := s.toList.contains '\x7b'

/-- What a route does.  A plain segment behind one with a placeholder is an action on a member;
else the method decides. -/
def endpointOf (path method : String) (action : Option String) : Endpoint :=
  let byMethod : Endpoint :=
    if method = "GET" then .standard (if hasBrace path then .show else .index)
    else if method = "POST" then .standard .store
    else if method = "PUT" ∨ method = "PATCH" then .standard .update
    else if method = "DELETE" then .standard .destroy
    else match action.filter (· != "") with
      | some a => .other a
      | none => .other (Text.lower method)
  match (segments path).reverse with
  | last :: before :: _ =>
    if !hasBrace last && hasBrace before then
      match action with
      | some a => if a ≠ "" ∧ !usualActions.contains a then .other a else .other last
      | none => .other last
    else byMethod
  | _ => byMethod

/-- What a route does whose method may be any value.  One that is no text is no usual method, and
cannot be put into small letters to name an action. -/
def endpointFor (path method : Datum) (action : Option String) : Except Misuse Endpoint := do
  let path ← path.textFor "strip"
  match method with
  | .text method => return endpointOf path method action
  | d =>
    let e := endpointOf path "" action
    if e = .other "" then throw (.lacksOperation d.kindName "lower") else return e

/-- The parameters of a route: those that the backend names, or else the placeholders. -/
def parametersOf (entry : Entry) (path : String) (resource : Option String) :
    Except Fault (List PathParameter) := do
  let given ← entry.parameters
  let named ← if given.truthy then (given.items : Except Misuse _) else pure []
  let names := if named.isEmpty then (placeholders path).map .text else named
  names.mapM fun d => do
    if !d.hashable then throw (.misuse (.unhashable d.kindName))
    let name ← d.textFor "endswith"
    return {
      name := name
      required := !(optionalNames path).contains name
      type := parameterType name resource }

/-- Middleware that lets only known users through. -/
def authMiddleware : List String := ["auth", "auth:api", "auth:sanctum", "jwt.auth"]

/-! ### The analysis -/

/-- The path of an entry without the slashes at its beginning. -/
def pathOf (entry : Entry) : Except Fault String := do
  return Text.dropLeading '/' (← (← entry.uri).textFor "lstrip")

/-- The description of one route. -/
def analyzeEntry (entry : Entry) : Except Fault Route := do
  let path ← pathOf entry
  let methods ← (← (← entry.methods).items).mapM fun m => do
    return Text.upper (← m.textFor "upper")
  let action ← entry.action
  let controller ← if action.truthy then action.memberFor "controller" .null else pure .null
  let actionName ← actionOf controller
  let middleware ← (← entry.middleware).elementsOrNone
  let name ← entry.name
  let resource ← resourceOf path name
  let primary := primaryMethod methods
  return {
    uri := path
    methods := methods
    primary := primary
    endpoint := endpointOf path primary actionName
    name := name
    controller := controller
    action := actionName
    parameters := ← parametersOf entry path resource
    middleware := middleware
    resource := resource
    isApi := Text.startsWith apiRoot path
    requiresAuth := middleware.any fun d => authMiddleware.any fun a => d.same (.text a) }

/-- Routes, and the same routes grouped by resource in the order of first occurrence. -/
structure Analysis where
  routes : List Route
  groups : Entries String (List Route)
deriving Repr, Inhabited

namespace Analysis

/-- No routes. -/
def empty : Analysis := ⟨[], []⟩

/-- The analysis with one more route. -/
def add (a : Analysis) (r : Route) : Analysis where
  routes := a.routes ++ [r]
  groups :=
    match r.resource.filter (· != "") with
    | some resource => a.groups.put resource (((a.groups.lookup resource).getD []) ++ [r])
    | none => a.groups

/-- An added route comes last. -/
@[simp] theorem routes_add (a : Analysis) (r : Route) : (a.add r).routes = a.routes ++ [r] := rfl

/-- The names of the resources. -/
def resources (a : Analysis) : List String := a.groups.keys

/-- The analysis of several routes. -/
def ofEntries (entries : List Entry) : Except Fault Analysis :=
  entries.foldlM (fun a e => return a.add (← analyzeEntry e)) empty

/-- The names that the resource of a model may have. -/
def resourceNames (model : String) : List String :=
  [Text.lower model, Naming.snake model, Naming.pluralize (Naming.snake model),
    Naming.kebab model, Naming.pluralize (Naming.kebab model)]

/-- The routes of the first resource that may be named for a model. -/
def routesForModel (a : Analysis) (model : String) : List Route :=
  ((a.groups.find? fun g => (resourceNames model).contains (Text.lower g.1)).map Prod.snd).getD []

end Analysis

/-! ### What can be analyzed -/

/-- What an analysis is asked to look at. -/
inductive Subject where
  /-- Nothing: the interface routes of the table that is set. -/
  | unspecified
  /-- Something that lists its routes. -/
  | router (entries : List Entry)
  /-- Several routes. -/
  | entries (entries : List Entry)
  /-- One route. -/
  | entry (entry : Entry)
  /-- Some other value. -/
  | value (d : Datum)

/-- Whether a subject is of a form that can be analyzed. -/
def canAnalyze : Subject → Bool
  | .value (.list _) => true
  | .value (.object _) => true
  | .value .null => true
  | .value _ => false
  | _ => true

/-- The routes of a table whose path begins with `api/`. -/
def analyzeApi (table : Option (List Entry)) : Except Fault Analysis := do
  match table with
  | none => throw (.analysis .noRouteTable)
  | some entries =>
    let chosen ← entries.filterM fun e => return Text.startsWith apiRoot (← pathOf e)
    Analysis.ofEntries chosen

/-- The analysis of a subject, with the table that is set. -/
def analyze (table : Option (List Entry)) : Subject → Except Fault Analysis
  | .unspecified => analyzeApi table
  | .router entries => Analysis.ofEntries entries
  | .entries entries => Analysis.ofEntries entries
  | .entry entry => Analysis.ofEntries [entry]
  | .value .null => analyzeApi table
  | .value (.list []) => .ok .empty
  | .value (.object []) => .ok .empty
  | .value (.list (d :: _)) => .error (.misuse (.lacksOperation d.kindName "uri"))
  | .value (.object _) => .error (.misuse (.lacksOperation "str" "uri"))
  | .value d => .error (.analysis (.notRoutes d.kindName))

end DartScaffold.Routing
