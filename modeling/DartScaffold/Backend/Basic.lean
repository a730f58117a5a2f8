/-
**Backends.**

A backend is known by what it offers: the tables, the names of its models, the model of a name, and
the routes.  Where these come from, a manifest or the classes of a program, does not matter to what
is generated from them.

Main definitions:

* `Backend` — what a backend offers;
* `Backend.Manifest.backend` — the backend that a manifest describes.

Main results:

* `Backend.Manifest.backend_schema` — a described backend always has its tables.
-/

import DartScaffold.Backend.Manifest

set_option relaxedAutoImplicit false
set_option autoImplicit false

namespace DartScaffold

/-- What a backend offers. -/
structure Backend where
  /-- The tables, or why they cannot be reached. -/
  schema : Except SchemaFault Backend.Schema
  names : Except Fault (List Datum)
  model : String → Except Fault Backend.ModelView
  routes : List Routing.Entry

/-- The backend that a manifest describes. -/
def Backend.Manifest.backend (m : Backend.Manifest) : Backend where
  schema := .ok m.schema
  names := m.modelNames
  model := fun name => m.model (.text name)
  routes := m.routes

/-- A described backend always has its tables. -/
theorem Backend.Manifest.backend_schema (m : Backend.Manifest) :
    m.backend.schema = .ok m.schema := rfl

end DartScaffold
