/-
**What is asked to be analyzed as a model.**

A model is asked for by its name, or a class, an object made of one, or any other value is given.
A name is looked up in the program; of what is found, or given, only an object that has a table
is a model.

Main definitions:

* `Backend.Subject` — what is asked to be analyzed;
* `Backend.Lookup`, `Backend.lookupAmong`, `Backend.lookupImported` — what a name leads to;
* `Backend.Subject.model` — the model that is meant;
* `Backend.Subject.isModel` — whether a model is meant.
-/

import DartScaffold.Backend.ModelClass
import DartScaffold.Backend.Reference

set_option relaxedAutoImplicit false
set_option autoImplicit false

namespace DartScaffold.Backend

/-- What a name leads to. -/
abbrev Lookup := String → Except Fault ModelView

/-- A name leads to the class that has it. -/
def lookupAmong (classes : List ModelClass) : Lookup := fun name =>
  match classes.find? fun c => c.name == name with
  | some c => c.instantiate
  | none => .error (.model (.unresolved name none))

/-- A reference that cannot be followed is a fault of the models. -/
def unresolvedFault (reference : String) : Fault → Fault
  | .noImport reason => .model (.unresolved reference (some reason))
  | .noModule reason => .model (.unresolved reference (some reason))
  | .noPart reason => .model (.unresolved reference (some reason))
  | .badValue reason => .model (.unresolved reference (some reason))
  | fault => fault

/-- The name of what a reference led to, as a type. -/
def foundName : Found → String
  | .holder parts => (Found.holder parts).kindName
  | .value d => typeNameOf d

/-- A name is a reference to an object of a module, and plain objects are no models. -/
def lookupImported (modules : Modules) : Lookup := fun reference => do
  let found ← (importObject modules reference).mapError (unresolvedFault reference)
  throw (.model (.notModel (foundName found)))

/-- What is asked to be analyzed as a model. -/
inductive Subject where
  | name (reference : String)
  | ofClass (c : ModelClass)
  /-- An object made of a class. -/
  | made (c : ModelClass)
  | value (d : Datum)

namespace Subject

/-- The model that is meant. -/
def model (lookup : Lookup) : Subject → Except Fault ModelView
  | .name reference => lookup reference
  | .ofClass c => c.instantiate
  | .made c => c.ofInstance
  | .value d => .error (.model (.notModel (typeNameOf d)))

/-- Whether a model is meant.  A class has a table if its objects have. -/
def isModel (lookup : Lookup) : Subject → Except Fault Bool
  | .name reference =>
    match lookup reference with
    | .ok _ => .ok true
    | .error (.analysis (.model _)) => .ok false
    | .error fault => .error fault
  | .ofClass c => .ok (c.isCallableOnClass "get_table")
  | .made c => c.isCallable "get_table"
  | .value _ => .ok false

end Subject

end DartScaffold.Backend
