/-
**Watched runs.**

Whoever starts a run may watch it: each result is reported as soon as it is there, and what was
reported stays when the run fails.  A watched run is the run itself with a report behind each step
that has a result.

Main definitions:

* `Pipeline.Watched` — a computation on a workshop with reports;
* `Pipeline.Watched.ofWork`, `Pipeline.Watched.report` — a step without reports, and a report;
* `Pipeline.Watched.reports`, `Pipeline.Watched.traced` — a watched computation with its reports, as
  one that is not watched;
* `Pipeline.watchedRun`, `Pipeline.watchedFeature`, `Pipeline.watchedAll` — the watched runs.
-/

import DartScaffold.Pipeline.Basic

set_option relaxedAutoImplicit false
set_option autoImplicit false

namespace DartScaffold.Pipeline

/-! ### Reports -/

/-- A computation on a workshop that reports results. -/
abbrev Watched (α : Type) := ExceptT Fault (StateM (Workshop × Summary)) α

namespace Watched

/-- A step without reports. -/
def ofWork {α : Type} (x : Work α) : Watched α :=
  ExceptT.mk do
    let (w, reported) ← get
    let (result, w) := x.run.run w
    set (w, reported)
    return result

instance : MonadLift Work Watched := ⟨ofWork⟩

/-- Reports a result. -/
def report (r : FileResult) : Watched Unit :=
  ExceptT.mk do
    modify fun (w, reported) => (w, reported ++ [r])
    return .ok ()

/-- What a watched computation gives, with what it reports. -/
def reports {α : Type} (x : Watched α) : Work (α × Summary) :=
  ExceptT.mk do
    let w ← get
    let (result, w, reported) := x.run.run (w, [])
    set w
    return result.map fun a => (a, reported)

/-- What a watched computation comes to, be it a fault, with what it reports. -/
def traced {α : Type} (x : Watched α) : Work (Except Fault α × Summary) :=
  ExceptT.mk do
    let w ← get
    let (result, w, reported) := x.run.run (w, [])
    set w
    return .ok (result, reported)

end Watched

/-! ### Runs -/

/-- Generates and writes a planned file, and reports the result. -/
def watchedExecute (p : Pipeline) (f : Planned) : Watched FileResult := do
  let r ← p.execute f
  Watched.report r
  return r

/-- Generates and writes planned files one after another. -/
def watchedRun (p : Pipeline) (plan : List Planned) : Watched Summary :=
  plan.mapM p.watchedExecute

/-- Generates the files of a model in the groups that are among some names. -/
def watchedFeature (p : Pipeline) (model groups : Datum) (withRoutes : Bool) :
    Watched Summary := do
  match ← (Work.attempt (p.analyze model withRoutes) : Work (Except Fault Model)) with
  | .ok m => p.watchedRun (← p.planModel m groups)
  | .error fault =>
    if isAnalysisFault fault then do
      let name := model.display
      let r : FileResult := ⟨name, .failed, "analysis", name, fault.message⟩
      Run.logError ("Cannot analyze " ++ name ++ ": " ++ fault.message)
      Watched.report r
      return [r]
    else throw fault

/-- Generates the files of a model, unless it is left out. -/
def watchedUnlessExcluded (p : Pipeline) (groups model : Datum) : Watched Summary := do
  if ← (isExcluded p.settings model : Except Misuse Bool) then do
    Run.warn ("Model '" ++ model.display ++ "' is excluded from generation")
    return []
  else p.watchedFeature model groups false

/-- Generates the transport, if services are asked for, and the files of the given models, or of
all models that are not left out if none are given. -/
def watchedAll (p : Pipeline) (models groups : Datum) : Watched Summary := do
  let targets ←
    match models with
    | .null => do pure ((← (p.availableModels : Except Fault _)).map .text)
    | given => (given.items : Except Misuse _)
  let names ← (groups.items : Except Misuse _)
  let base ← if names.any Group.service.isNamed then do p.watchedRun (← p.planBase) else pure []
  let rest ← targets.mapM (p.watchedUnlessExcluded groups)
  return base ++ rest.flatten

end DartScaffold.Pipeline
