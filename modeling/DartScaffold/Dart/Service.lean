/-
**Services.**

The service of a model has one method for each of the five usual operations on its collection, and
one for each further route.  The name of a further method is made from the name of its endpoint;
when that is taken the verb of the request is added, and then a number.  The path of the request is
the path of the route, with the placeholders written as variables.

Main definitions:

* `Dart.Method`, `Dart.Service` — a method and a service;
* `Dart.freshName` — a name that is not taken;
* `Dart.interpolate` — the path of a route as a text with variables;
* `Dart.customMethod`, `Dart.customMethods` — the methods of further routes;
* `Dart.service` — the service of a model;
* `Dart.serviceWarnings` — what is odd about its routes.

Main results:

* `Dart.service_of_customRoutes` — the usual routes contribute nothing.
-/

import DartScaffold.Dart.Field
import DartScaffold.Routing.Placeholder

set_option relaxedAutoImplicit false
set_option autoImplicit false

namespace DartScaffold.Dart

/-! ### Methods -/

/-- A parameter of a method. -/
structure Parameter where
  name : String
  type : String
deriving DecidableEq, Repr, Inhabited

/-- A parameter as it is declared. -/
def Parameter.text (p : Parameter) : String := p.type ++ " " ++ p.name

/-- What a method returns. -/
inductive Returned where
  | one
  | many
  | success
deriving DecidableEq, Repr, Inhabited

/-- The name of what a method returns. -/
def Returned.name : Returned → String
  | .one => "single"
  | .many => "list"
  | .success => "bool"

/-- The type of what a method returns. -/
def Returned.type (model : String) : Returned → String
  | .one => model
  | .many => "List<" ++ model ++ ">"
  | .success => "bool"

/-- A method of a service. -/
structure Method where
  name : String
  kind : String
  returnType : String
  returned : Returned
  comment : String
  parameters : List Parameter
  verb : String
  path : String
  hasBody : Bool
  bodyName : String
deriving DecidableEq, Repr, Inhabited

namespace Method

/-- The declared parameters. -/
def signature (m : Method) : String := Text.join ", " (m.parameters.map Parameter.text)

/-- A parameter as a value in templates. -/
def parameterValue (p : Parameter) : Template.Value :=
  .record (recordName "service" "ServiceParameter") (some p.text)
    [("name", .text p.name), ("dart_type", .text p.type)] []

/-- A method as a value in templates. -/
def value (m : Method) : Template.Value :=
  .record (recordName "service" "ServiceMethod") none [
    ("name", .text m.name), ("kind", .text m.kind), ("return_type", .text m.returnType),
    ("returns", .text m.returned.name), ("doc", .text m.comment),
    ("parameters", .list (m.parameters.map parameterValue)), ("verb", .text m.verb),
    ("path", .text m.path), ("has_body", .flag m.hasBody), ("body_name", .text m.bodyName)]
    [("signature", .text m.signature)]

end Method

/-- The parameter for the number of an item. -/
def idParameter : Parameter := ⟨"id", "int"⟩

/-- The parameter for the body of a request. -/
def bodyParameter (name : String) : Parameter := ⟨name, "Map<String, dynamic>"⟩

/-- The methods for the five usual operations. -/
def usualMethods (c : Context) (model : String) : List Method := [
  { name := "getAll", kind := "get_all", returnType := Returned.many.type model, returned := .many,
    comment := c.comment 2 ("Get all " ++ model ++ " items\n\n" ++
      "[page] Optional page number for pagination\n[filters] Optional query filters"),
    parameters := [], verb := "get", path := "", hasBody := false, bodyName := "data" },
  { name := "getById", kind := "get_by_id", returnType := model, returned := .one,
    comment := c.comment 2 ("Get a " ++ model ++ " by ID\n\n[id] The ID of the " ++ model),
    parameters := [idParameter], verb := "get", path := "", hasBody := false,
    bodyName := "data" },
  { name := "create", kind := "create", returnType := model, returned := .one,
    comment := c.comment 2
      ("Create a new " ++ model ++ "\n\n[data] The " ++ model ++ " data to create"),
    parameters := [bodyParameter "data"], verb := "post", path := "", hasBody := true,
    bodyName := "data" },
  { name := "update", kind := "update", returnType := model, returned := .one,
    comment := c.comment 2 ("Update a " ++ model ++ "\n\n[id] The ID of the " ++ model ++
      " to update\n[data] The updated " ++ model ++ " data"),
    parameters := [idParameter, bodyParameter "data"], verb := "put", path := "",
    hasBody := true, bodyName := "data" },
  { name := "delete", kind := "delete", returnType := "bool", returned := .success,
    comment := c.comment 2
      ("Delete a " ++ model ++ " by ID\n\n[id] The ID of the " ++ model ++ " to delete"),
    parameters := [idParameter], verb := "delete", path := "", hasBody := false,
    bodyName := "data" }]

/-- The names of the methods for the usual operations. -/
def usualNames : List String := ["getAll", "getById", "create", "update", "delete"]

/-! ### Names that are not taken -/

/-- The verbs that the transport knows. -/
def transportVerbs : List String := ["get", "post", "put", "patch", "delete"]

/-- The verbs of requests with a body. -/
def bodyVerbs : List String := ["post", "put", "patch"]

/-- The verb by which a route is requested: its own, or `get` if the transport does not know it. -/
def verbOf (r : Route) : String :=
  let verb := Text.lower r.primary
  if transportVerbs.contains verb then verb else "get"

/-- The first of `base2`, `base3`, … that is not taken; one of the first few is not. -/
def numbered (taken : List String) (base : String) : String :=
  (((List.range (taken.length + 1)).map fun n => base ++ toString (n + 2)).find?
    fun name => !taken.contains name).getD base

/-- A name that is not taken: the given one, or with the verb behind it, or with a number. -/
def freshName (taken : List String) (verb name : String) : String :=
  let base := if taken.contains name then name ++ Naming.pascal verb else name
  if taken.contains base then numbered taken base else base

/-- The names for the body of a request in the order of preference: `data`, `body`, `bodyData`,
`bodyDataData`, …, as many as asked for. -/
def bodyNames (count : Nat) : List String :=
  "data" :: (List.range count).map fun n => "body" ++ Text.join "" (List.replicate n "Data")

/-- The first name for the body that no parameter has. -/
def bodyNameFor (parameters : List Parameter) : String :=
  ((bodyNames (parameters.length + 1)).find? fun name =>
    !parameters.any fun p => p.name == name).getD "data"

/-! ### Paths -/

/-- The beginning of the path that the address of the backend holds already. -/
def apiStart : String := "api/"

/-- The path of a route within the interface. -/
def innerPath (uri : String) : String :=
  let path := Text.dropLeading '/' uri
  if Text.startsWith apiStart path then String.ofList (path.toList.drop apiStart.length) else path

/-- The pieces of a path with variables for the placeholders.  A variable stands between braces if
the character behind it could belong to its name. -/
def interpolatePieces (names : Naming.Names) : List Routing.Piece → List Char
  | [] => []
  | .char ch :: rest => ch :: interpolatePieces names rest
  | .placeholder name _ :: rest =>
    let identifier := (names.field (.text (String.ofList name))).toList
    let joined :=
      match rest with
      | .char ch :: _ => Text.isWordChar ch
      | _ => false
    (if joined then '$' :: '\x7b' :: identifier ++ ['\x7d'] else '$' :: identifier) ++
      interpolatePieces names rest

/-- The path of a route as a text with variables. -/
def interpolate (names : Naming.Names) (uri : String) : String :=
  String.ofList (interpolatePieces names (Routing.pieces 0 (innerPath uri).toList))

/-! ### Further methods -/

/-- The parameters for the placeholders of a route. -/
def pathParameters (names : Naming.Names) (r : Route) : List Parameter :=
  r.parameters.map fun p => ⟨names.field (.text p.name), parameterTypeOf p.type⟩

/-- The method of a further route. -/
def customMethod (c : Context) (model : String) (taken : List String) (r : Route) : Method :=
  let verb := verbOf r
  let own := pathParameters c.names r
  let hasBody := bodyVerbs.contains verb
  let bodyName := if hasBody then bodyNameFor own else "data"
  let returned : Returned :=
    if verb = "delete" then .success else if r.uri.toList.contains '\x7b' then .one else .many
  { name := freshName taken verb (c.names.field (.text r.endpoint.tag))
    kind := "custom"
    returnType := returned.type model
    returned := returned
    comment := c.comment 2 (r.primary ++ " " ++ r.uri)
    parameters := own ++ (if hasBody then [bodyParameter bodyName] else [])
    verb := verb
    path := interpolate c.names r.uri
    hasBody := hasBody
    bodyName := bodyName }

/-- The methods of further routes, each under a name that those before it leave free. -/
def customMethods (c : Context) (model : String) : (taken : List String) → List Route → List Method
  | _, [] => []
  | taken, r :: rest =>
    let m := customMethod c model taken r
    m :: customMethods c model (m.name :: taken) rest

/-! ### Services -/

/-- What a service consists of. -/
structure Service where
  name : String
  model : String
  endpoint : String
  imports : List String
  methods : List Method
  mark : String
  comment : String
deriving DecidableEq, Repr, Inhabited

namespace Service

/-- The names of the methods. -/
def methodNames (s : Service) : List String := s.methods.map Method.name

/-- The methods of further routes. -/
def custom (s : Service) : List Method := s.methods.filter fun m => m.kind == "custom"

/-- A service as a value in templates. -/
def value (s : Service) : Template.Value :=
  .record (recordName "service" "DartServiceSpec") none [
    ("class_name", .text s.name), ("model_class", .text s.model),
    ("endpoint", .text s.endpoint), ("imports", .texts s.imports),
    ("methods", .list (s.methods.map Method.value)), ("nullable_suffix", .text s.mark),
    ("doc", .text s.comment)] [
    ("method_names", .texts s.methodNames),
    ("custom_methods", .list (s.custom.map Method.value))]

end Service

/-- The service of a model. -/
def service (c : Context) (m : Model) : Service :=
  let model := c.typeName m
  let o := c.settings.output
  { name := model ++ "Service"
    model := model
    endpoint := Context.endpoint m
    imports := ["import '" ++ transportImport o .services ++ "';",
      "import '" ++ modelImport o .services m.className ++ "';"]
    methods := usualMethods c model ++ customMethods c model usualNames m.customRoutes
    mark := c.mark
    comment := c.comment 0 ("Service class for " ++ model ++ "Service") }

/-- The usual routes contribute nothing. -/
theorem service_of_customRoutes (c : Context) (m : Model) :
    service c (m.withRoutes m.customRoutes) = service c m := by
  simp [service, Model.customRoutes, Model.withRoutes, Context.typeName, Context.endpoint]

/-- What is odd about the routes of a model: verbs that the transport does not know. -/
def serviceWarnings (m : Model) : List String :=
  m.customRoutes.filterMap fun r =>
    if transportVerbs.contains (Text.lower r.primary) then none
    else some ("Unsupported HTTP method " ++ r.primary ++ " for " ++ r.uri ++ "; using GET")

end DartScaffold.Dart
