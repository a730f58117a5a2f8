/-
**The pipeline.**

The pipeline takes the models of a backend from their analysis to written files.  A file that is
there already is left alone, unless it is to be overwritten or whoever is asked agrees.  A file that
cannot be generated or written, and a model that cannot be analyzed, is recorded in the summary, and
the run goes on.

Main definitions:

* `Pipeline` — the backend, the settings, and the question to be asked;
* `Pipeline.write`, `Pipeline.execute` — writing a text, and a planned file;
* `Pipeline.isExcluded`, `Pipeline.availableModels` — the models that are left out, and the others;
* `Pipeline.analyze` — the description of a model, with its routes if wanted;
* `Pipeline.generateFeature`, `Pipeline.generateAll` — runs for one model and for many.
-/

import DartScaffold.Analysis.Model
import DartScaffold.Backend.Basic
import DartScaffold.Pipeline.Outcome
import DartScaffold.Pipeline.Plan
import DartScaffold.Pipeline.Workshop
import DartScaffold.Registry

set_option relaxedAutoImplicit false
set_option autoImplicit false

namespace DartScaffold

open Pipeline (Work Status FileResult Summary Planned Group Source)

/-- A pipeline. -/
structure Pipeline where
  backend : Backend
  settings : Settings
  /-- The question whether the file at a path is overwritten; none, if nobody can be asked. -/
  question : Option (String → String)

namespace Pipeline

/-! ### Writing -/

/-- Whether a file may be written. -/
def mayWrite (p : Pipeline) (path : Path) : Work Bool := do
  let there ← ((← Run.tree).pathExists path : Except FileError Bool)
  if !there || (← Work.now).force then return true
  match p.question with
  | none => return false
  | some question => Run.ask (question path.text)

/-- Changes the files. -/
def setTree (tree : FileTree) : Work Unit :=
  Work.change fun w => { w with session := { w.session with tree := tree } }

/-- The text that is written, which has to be one. -/
def writtenText : Datum → Except Misuse String
  | .text s => .ok s
  | d => .error (.unfit ("data must be str, not " ++ d.kindName))

/-- Makes a directory and those on the way to it.  What was made stays, even if the rest cannot
be. -/
def makeDirectories (directory : Path) : Work Unit := do
  let (made, outcome) := (← Run.tree).makeDirectories directory
  setTree made
  (outcome : Except FileError Unit)

/-- Writes a text to a file, with the directories on the way to it. -/
def write (p : Pipeline) (file : String) (content : Datum) : Work Status := do
  let path := Path.ofString file
  if !(← p.mayWrite path) then return .skipped
  if !(← ((← Run.tree).pathExists path.parent : Except FileError Bool)) then
    makeDirectories path.parent
  let text ← (writtenText content : Except Misuse String)
  setTree (← ((← Run.tree).write path text : Except FileError FileTree))
  return .written

/-! ### Generating -/

/-- The generator of a component, made when it is first needed. -/
def generator (p : Pipeline) (name : String) : Work Dart.Generator := do
  match (← Work.now).generators.lookup name with
  | some g => return g
  | none => do
    let g ← Registry.standard.generator .null name (.settings p.settings)
    Work.change fun w => { w with generators := w.generators.put name g }
    return g

/-- The content of a planned file. -/
def render (p : Pipeline) : Source → Work Datum
  | .given content => return content
  | .fails reason => throw (.raised reason)
  | .artifact a m => do
    let name := a.component.name
    let made := (← p.generator name).generateFile (← Run.tree) m a
    Run.warnAll made.warnings
    Work.change fun w => { w with generators := w.generators.put name made.next }
    return .text (← (made.text : Except Fault String))

/-- Generates and writes a planned file.  A fault is recorded. -/
def execute (p : Pipeline) (f : Planned) : Work FileResult := do
  let result ← Work.attempt do p.write f.path (← p.render f.source)
  match result with
  | .ok status => return ⟨f.path, status, f.component, f.model, ""⟩
  | .error fault =>
    Run.logError ("Failed to generate " ++ f.path ++ ": " ++ fault.message)
    return ⟨f.path, .failed, f.component, f.model, fault.message⟩

/-- Generates and writes planned files one after another. -/
def run (p : Pipeline) (plan : List Planned) : Work Summary := plan.mapM p.execute

/-! ### Models -/

/-- The unqualified name of a model, which must be a text. -/
def shortName : Datum → Except Misuse String
  | .text s => .ok (Naming.lastPiece s)
  | d => .error (.unfit ("expected string or bytes-like object, got '" ++ d.kindName ++ "'"))

/-- Whether a model is left out, by its full or its unqualified name. -/
def isExcluded (s : Settings) (name : Datum) : Except Misuse Bool := do
  let excluded ← s.excludedModels.mapM shortName
  return excluded.contains (← shortName name)

/-- The names of the models that are not left out. -/
def availableModels (p : Pipeline) : Except Fault (List String) := do
  let names ← p.backend.names
  names.filterMapM fun name => do
    if ← (isExcluded p.settings name : Except Misuse Bool) then return none
    else return some name.display

/-- The analysis of the routes, made when it is first needed.  Routes that cannot be analyzed are
passed over with a warning. -/
def routeAnalysis (p : Pipeline) : Work Routing.Analysis := do
  match (← Work.now).routes with
  | some a => return a
  | none => do
    let a ←
      match Routing.analyze (some p.backend.routes) .unspecified with
      | .ok a => pure a
      | .error (.analysis f) => do
        Run.warn ("Route analysis unavailable: " ++ f.message)
        pure Routing.Analysis.empty
      | .error f => throw f
    Work.change fun w => { w with routes := some a }
    return a

/-- The model that is asked for, by its name: no other value is a model. -/
def modelOf (p : Pipeline) : Datum → Except Fault Backend.ModelView
  | .text name => p.backend.model name
  | d => .error (.model (.notModel (Backend.typeNameOf d)))

/-- The description of a model, with the routes of its resource if they are wanted. -/
def analyze (p : Pipeline) (model : Datum) (withRoutes : Bool) : Work Model := do
  let view ← (p.modelOf model : Except Fault _)
  let m ← Analysis.analyze p.backend.schema p.settings.analysis view
  if withRoutes then return m.withRoutes ((← p.routeAnalysis).routesForModel m.className)
  else return m

/-! ### Runs -/

/-- The plan for the transport. -/
def planBase (p : Pipeline) : Work (List Planned) := do
  let _ ← p.generator Dart.Component.transport.name
  (planTransport p.settings.output : Except Misuse _)

/-- The plan for the groups of a model that are among some names. -/
def planModel (p : Pipeline) (m : Model) (names : Datum) : Work (List Planned) := do
  let names ← (names.elements : Except Misuse _)
  let groups ← (Group.among names).mapM fun g => do
    let _ ← p.generator g.component.name
    (planGroup p.settings.output m g : Except Misuse _)
  return groups.flatten

/-- Generates the transport, unless there is a file at its path. -/
def ensureTransport (p : Pipeline) : Work (Option FileResult) := do
  match ← p.planBase with
  | [] => return none
  | f :: _ =>
    if ← ((← Run.tree).pathExists (Path.ofString f.path) : Except FileError Bool) then return none
    else return some (← p.execute f)

/-- Whether a fault is one of the analysis of a model, which a run goes on after. -/
def isAnalysisFault : Fault → Bool
  | .analysis _ => true
  | .description _ => true
  | _ => false

/-- Generates the files of a model in the groups that are among some names. -/
def generateFeature (p : Pipeline) (model groups : Datum) (withRoutes : Bool) :
    Work Summary := do
  match ← Work.attempt (p.analyze model withRoutes) with
  | .ok m => p.run (← p.planModel m groups)
  | .error fault =>
    if isAnalysisFault fault then do
      let name := model.display
      Run.logError ("Cannot analyze " ++ name ++ ": " ++ fault.message)
      return [⟨name, .failed, "analysis", name, fault.message⟩]
    else throw fault

/-- Generates the files of a model, unless it is left out. -/
def generateUnlessExcluded (p : Pipeline) (groups model : Datum) : Work Summary := do
  if ← (isExcluded p.settings model : Except Misuse Bool) then do
    Run.warn ("Model '" ++ model.display ++ "' is excluded from generation")
    return []
  else p.generateFeature model groups false

/-- Generates the transport, if services are asked for, and the files of the given models, or of
all models that are not left out if none are given. -/
def generateAll (p : Pipeline) (models groups : Datum) : Work Summary := do
  let targets ←
    match models with
    | .null => do pure ((← (p.availableModels : Except Fault _)).map .text)
    | given => (given.items : Except Misuse _)
  let names ← (groups.items : Except Misuse _)
  let base ← if names.any Group.service.isNamed then do p.run (← p.planBase) else pure []
  let rest ← targets.mapM (p.generateUnlessExcluded groups)
  return base ++ rest.flatten

end Pipeline

end DartScaffold
