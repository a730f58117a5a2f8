/-
**Plans.**

Before anything is generated it is laid down which files are to be written, and where.  The files of
a model come in groups that may be left out: its data class, its service, its widgets and its
screens.  The transport is planned once for all models.

Main definitions:

* `Pipeline.Group`, `Pipeline.Group.artifacts` — the groups and their files;
* `Pipeline.Planned` — a file that is to be written;
* `Pipeline.planTransport`, `Pipeline.planGroup` — the plan for the transport, and for a group of
  files of a model;
* `Pipeline.estimate` — how many files are planned.
-/

import DartScaffold.Dart.Artifact

set_option relaxedAutoImplicit false
set_option autoImplicit false

namespace DartScaffold.Pipeline

open Dart (Artifact Component WidgetKind ScreenKind)

/-! ### Groups -/

/-- A group of files of a model. -/
inductive Group where
  | model
  | service
  | widgets
  | screens
deriving DecidableEq, Repr, Inhabited

namespace Group

/-- The name of a group. -/
def name : Group → String
  | .model => "model"
  | .service => "service"
  | .widgets => "widgets"
  | .screens => "screens"

/-- The groups in the order of generation. -/
def all : List Group := [.model, .service, .widgets, .screens]

/-- The names of the groups. -/
def names : List String := all.map name

/-- A value is the name of the group. -/
def isNamed (g : Group) (d : Datum) : Bool := d.same (.text g.name)

/-- The group that a value names. -/
def named? (d : Datum) : Option Group := all.find? fun g => g.isNamed d

/-- The groups that are among some names, in the order of generation. -/
def among (names : List Datum) : List Group := all.filter fun g => names.any g.isNamed

/-- The component that a group belongs to. -/
def component : Group → Component
  | .model => .model
  | .service => .service
  | .widgets => .widget
  | .screens => .screen

/-- The files of a group in order. -/
def artifacts : Group → List Artifact
  | .model => [.dataClass]
  | .service => [.service]
  | .widgets => WidgetKind.all.map .widget
  | .screens => ScreenKind.all.map .screen

end Group

/-! ### Plans -/

/-- Where the content of a planned file comes from. -/
inductive Source where
  /-- It is generated for a model. -/
  | artifact (a : Artifact) (m : Model)
  /-- It is given; it has to be a text. -/
  | given (content : Datum)
  /-- Making it fails. -/
  | fails (reason : String)
deriving Repr, Inhabited

/-- A file that is to be written. -/
structure Planned where
  component : String
  path : String
  source : Source
  model : String
deriving Repr, Inhabited

/-- What a file is called in a plan. -/
def label : Artifact → String
  | .dataClass => "model"
  | .service => "service"
  | .widget kind => "widget:" ++ kind.name
  | .screen kind => "screen:" ++ kind.name
  | .transport => "api_base"

/-- The plan for a file of a model. -/
def planFile (o : OutputSettings) (m : Model) (a : Artifact) : Except Misuse Planned := do
  return ⟨label a, (← a.path o m).text, .artifact a m, m.className⟩

/-- The plan for a group of files of a model. -/
def planGroup (o : OutputSettings) (m : Model) (g : Group) : Except Misuse (List Planned) :=
  g.artifacts.mapM (planFile o m)

/-- The plan for the transport, which belongs to no model. -/
def planTransport (o : OutputSettings) : Except Misuse (List Planned) := do
  return [⟨label .transport, (← Artifact.transportPath o).text, .artifact .transport default, ""⟩]

/-! ### Estimates -/

/-- How many files are planned for a model in the groups of some names, each of which must be that
of a group. -/
def filesPerModel (names : List Datum) : Except Misuse Nat := do
  let counts ← names.mapM fun name =>
    match Group.named? name with
    | some g => pure g.artifacts.length
    | none => throw (.missingMember name.display)
  return counts.foldl (· + ·) 0

/-- How many files are planned for a number of models. -/
def estimate (models names : Datum) (withBase : Bool) : Except Misuse Datum := do
  let names ← names.elements
  let base : Nat := if withBase && names.any Group.service.isNamed then 1 else 0
  let files ← filesPerModel names
  match models with
  | .bool b => return .int ((b.toNat * files + base : Nat))
  | .int i => return .int (i * files + base)
  | .double d => return .double (d.timesPlus files base)
  | d => throw (.unfit ("unsupported operand type(s) for +: '" ++ d.kindName ++ "' and 'int'"))

end DartScaffold.Pipeline
