/-
**What is installed.**

Mapped models belong to modules, and their tables to databases.  A module is found by a reference to
what it maps, and a database by its address.

Main definitions:

* `Backend.Installation` — the modules and databases at hand;
* `Backend.Installation.mapping` — the mapping that a reference leads to;
* `Backend.Installation.backend` — the backend of mapped models with a database.
-/

import DartScaffold.Backend.Mapped
import DartScaffold.Backend.Reference
import DartScaffold.Database.Address

set_option relaxedAutoImplicit false
set_option autoImplicit false

namespace DartScaffold.Backend

/-- The modules and databases at hand; a database is known by the path of its file. -/
structure Installation where
  mappings : List Mapping
  databases : Entries String Database.Tables
deriving Repr, Inhabited

namespace Installation

/-- A place without modules and databases. -/
def none : Installation := ⟨[], []⟩

/-- What a module holds: the base of its models, and the models, each with its registry. -/
def partsOf (m : Mapping) : Datum :=
  .object (("Base" :: m.models.map MappedModel.name).map fun name =>
    (name, .object [("registry", .object [])]))

/-- A reference that leads nowhere is a fault of the models. -/
def importFault (reference : String) : Fault → Fault
  | .noImport reason => .model (.notImportable reference reason)
  | .noModule reason => .model (.notImportable reference reason)
  | .noPart reason => .model (.notImportable reference reason)
  | fault => fault

/-- The mapping that a reference leads to. -/
def mapping (i : Installation) (reference : String) : Except Fault Mapping := do
  let modules := i.mappings.map fun m => (m.module, partsOf m)
  let found ← (importObject modules reference).mapError (importFault reference)
  if let .value d := found then throw (.misuse (.lacksOperation d.kindName "mappers"))
  match i.mappings.find? fun m => m.module == (splitReference reference).1 with
  | some m => return m
  | _ => throw (.model (.notImportable reference "No module found"))

/-- The backend of mapped models with a database. -/
def backend (i : Installation) (tree : FileTree) (url reference : String)
    (routes : List Routing.Entry) : Except Fault Backend := do
  let m ← i.mapping reference
  let address ← Database.Address.ofString url
  return m.backend ((Database.openAt tree i.databases address).map Database.schema) routes

end Installation

end DartScaffold.Backend
