/-
**Model classes.**

A model may be a class of the backend's program.  It shows itself through its members: methods
that answer the questions about a model, attributes, and accessors that lead to related models.
A member is looked for on the class itself and then on the class above it.  Only a class that has
a method for its table is a model, and only one that can be made without arguments is analyzed.

Main definitions:

* `Backend.ModelClass` — a class with its members;
* `Backend.ModelClass.call`, `Backend.ModelClass.isCallable` — using a member of an instance;
* `Backend.ModelClass.view` — the class as a model;
* `Backend.ModelClass.instantiate` — the checks before a model is made of a class.
-/

import DartScaffold.Backend.View

set_option relaxedAutoImplicit false
set_option autoImplicit false

namespace DartScaffold.Backend

/-- A class of the backend's program. -/
structure ModelClass where
  module : String
  name : String
  isAbstract : Bool
  /-- The constructor's argument, if it needs one. -/
  argument : Option String
  own : Entries String Member
  inherited : Entries String Member
deriving Repr

namespace ModelClass

/-- The name with the module. -/
def qualifiedName (c : ModelClass) : String := c.module ++ "." ++ c.name

/-- The member of a name, on the class itself or above it. -/
def find? (c : ModelClass) (name : String) : Option Member :=
  (c.own.lookup name).or (c.inherited.lookup name)

/-- What an answer is worth as a value. -/
def valueOf : Answer → Except Fault Datum
  | .value d => .ok d
  | .relation object => .error (.misuse (.notIterable object.className))
  | .registry _ => .error (.misuse (.unhashable "dict"))
  | .fails reason => .error (.raised reason)

/-- Using a member by calling it on an instance. -/
def Member.call (className name : String) : Member → Except Fault Answer
  | .method .required _ =>
    .error (.misuse (.unfit (className ++ "." ++ name ++
      "() missing 1 required positional argument: 'argument'")))
  | .method _ (.fails reason) => .error (.raised reason)
  | .method _ answer => .ok answer
  | .static (.fails reason) => .error (.raised reason)
  | .static answer => .ok answer
  | .property (.fails reason) => .error (.raised reason)
  | .property (.value d) =>
    .error (.misuse (.unfit ("'" ++ d.kindName ++ "' object is not callable")))
  | .property _ => .error (.misuse (.unfit "'object' object is not callable"))
  | .attribute (.value d) =>
    .error (.misuse (.unfit ("'" ++ d.kindName ++ "' object is not callable")))
  | .attribute _ => .error (.misuse (.unfit "'dict' object is not callable"))

/-- Calling the member of a name on an instance. -/
def call (c : ModelClass) (name : String) : Except Fault Answer :=
  match c.find? name with
  | some m => Member.call c.name name m
  | none => .error (.misuse (.lacksOperation c.name name))

/-- The value that calling a member gives. -/
def ask (c : ModelClass) (name : String) : Except Fault Datum := do valueOf (← c.call name)

/-- Whether an instance has a member of the name that can be called.  Looking at a property asks
it. -/
def isCallable (c : ModelClass) (name : String) : Except Fault Bool :=
  match c.find? name with
  | some (.method ..) => .ok true
  | some (.static _) => .ok true
  | some (.property (.fails reason)) => .error (.raised reason)
  | _ => .ok false

/-- Whether the class itself, without an instance, has a member of the name that can be called. -/
def isCallableOnClass (c : ModelClass) (name : String) : Bool :=
  match c.find? name with
  | some (.method ..) => true
  | some (.static _) => true
  | _ => false

/-- The value that calling a member gives, or another one if it cannot be called. -/
def askOr (c : ModelClass) (name : String) (missing : Datum) : Except Fault Datum := do
  if ← c.isCallable name then c.ask name else return missing

/-- The relations that an answer declares. -/
def declaredBy : Answer → Declared
  | .value .null => .nothing
  | .value (.object members) => .entries (members.map fun m => (m.1, .value m.2))
  | .value d => .other d.kindName
  | .registry entries => .entries entries
  | .relation object => .other object.className
  | .fails _ => .nothing

/-- The relations that the class declares, by a method or by an attribute. -/
def declared (c : ModelClass) : Except Fault Declared := do
  if ← c.isCallable "declared_relationships" then
    return declaredBy (← c.call "declared_relationships")
  match c.find? "__relationships__" with
  | some (.attribute answer) => return declaredBy answer
  | some (.method ..) => return .other "function"
  | some (.static _) => return .other "function"
  | some (.property _) => return .other "property"
  | none => return .nothing

/-- The rules: a mapping on the class, or what a method gives. -/
def rules (c : ModelClass) : Except Fault Datum := do
  match c.find? "rules" with
  | some (.attribute (.value (.object members))) => return .object members
  | _ => c.askOr "rules" .null

/-- Whether the model keeps times: what a method says, or an attribute. -/
def timestamps (c : ModelClass) : Except Fault Datum := do
  if ← c.isCallable "uses_timestamps" then c.ask "uses_timestamps"
  else match c.find? "timestamps" with
    | some (.attribute answer) => valueOf answer
    | some (.property answer) => valueOf answer
    | some _ => return .bool true
    | none => return .bool false

/-- The class as a model. -/
def view (c : ModelClass) : ModelView where
  name := c.askOr "get_model_name" (.text c.qualifiedName)
  className := c.name
  table := c.ask "get_table"
  keyName := c.ask "get_key_name"
  fillable := c.ask "get_fillable"
  guarded := c.askOr "get_guarded" (.list [])
  hidden := c.ask "get_hidden"
  casts := c.ask "get_casts"
  dates := c.ask "get_date_attributes"
  softDelete := c.ask "has_soft_delete"
  timestamps := c.timestamps
  rules := c.rules
  declared := c.declared
  members := c.own

/-- The model that is made of an instance, if it has a table. -/
def ofInstance (c : ModelClass) : Except Fault ModelView := do
  if ← c.isCallable "get_table" then return c.view
  throw (.model (.notModel c.qualifiedName))

/-- The model that is made of a class: it must not be abstract nor need arguments. -/
def instantiate (c : ModelClass) : Except Fault ModelView := do
  if c.isAbstract then throw (.model (.abstract c.qualifiedName))
  match c.argument with
  | some argument =>
    throw (.model (.needsArguments c.qualifiedName
      (c.name ++ ".__init__() missing 1 required positional argument: '" ++ argument ++ "'")))
  | none => c.ofInstance

end ModelClass

end DartScaffold.Backend
