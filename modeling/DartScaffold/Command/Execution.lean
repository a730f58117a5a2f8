/-
**Carrying out a command.**

A command is carried out by a pipeline that its options describe: the settings, the backend, and
the question whether a file is overwritten.  It ends with an exit code.  A fault that says what is
wrong with the settings, the backend, a model or the command itself is printed; any other fault
ends the program.  So does anything that the console refuses to show: names, paths and reasons are
printed as they are, and tags in them are taken for markup.

Main definitions:

* `Command.Surroundings` — what a command finds around it;
* `Command.wantedNames`, `Command.chosenModels` — the models that are asked for;
* `Command.showingProgress` — work whose results are shown as they are come to;
* `Command.Options.settings`, `Command.Options.backend`, `Command.Options.pipeline` — what the
  options describe;
* `Command.Task.perform` — carries out a task with a pipeline;
* `Command.Invocation.run` — carries out what a command line asks for.
-/

import DartScaffold.Backend.Installation
import DartScaffold.Backend.ManifestSource
import DartScaffold.Command.Report
import DartScaffold.Pipeline.Progress
import DartScaffold.Settings.File

set_option relaxedAutoImplicit false
set_option autoImplicit false

namespace DartScaffold.Command

open Pipeline (Work Watched Summary Group)

/-- What a command finds around it. -/
structure Surroundings where
  /-- The address of the interface that the environment sets. -/
  address : Datum
  installation : Backend.Installation
  console : Console

/-! ### What the options describe -/

namespace Options

/-- The settings that are laid over all others. -/
def overrides (o : Options) : Datum :=
  match o.output.nonempty? with
  | some directory => .object [("output", .object [("base_path", .text directory)])]
  | none => .null

/-- The settings, with the directory for the files if one is given. -/
def settings (o : Options) (around : Surroundings) : Run Settings :=
  Settings.load around.address o.settingsFile.document o.overrides

/-- The manifest, if one is given. -/
def manifest? (o : Options) (timeout : Datum) : Run (Option Backend.Manifest) :=
  match o.manifest.nonempty? with
  | some source => return some (← Backend.Manifest.load (.text source) timeout)
  | none => return none

/-- The backend: mapped models with their database and the routes of a manifest, or a manifest
alone. -/
def backend (o : Options) (around : Surroundings) (timeout : Datum) : Run Backend := do
  match o.databaseUrl.nonempty?, o.modelsModule.nonempty? with
  | some url, some reference => do
    let routes := ((← o.manifest? timeout).map Backend.Manifest.routes).getD []
    (around.installation.backend (← Run.tree) url reference routes : Except Fault Backend)
  | none, none =>
    match ← o.manifest? timeout with
    | some m => return m.backend
    | none => throw (.command .noBackend)
  | _, _ => throw (.command .lonelyDatabaseOption)

/-- The question whether the file at a path is overwritten. -/
def overwriteQuestion (path : String) : String := "File " ++ path ++ " already exists. Overwrite?"

/-- The pipeline. -/
def pipeline (o : Options) (around : Surroundings) : Run Pipeline := do
  let settings ← o.settings around
  return ⟨← o.backend around settings.api.timeout, settings, some overwriteQuestion⟩

end Options

/-! ### Tasks -/

/-- Prints several things. -/
def printAll (c : Console) (whats : List Printed) : Work Unit :=
  whats.forM fun what => Run.print c what

/-- Prints what became of the files, and gives the exit code. -/
def report (c : Console) (s : Summary) : Work Nat := do
  printAll c (summaryLines s)
  return s.exitCode

/-- Carries out work whose results the console shows as they are come to.  It has shown them when a
fault ends the work, too. -/
def showingProgress (c : Console) (x : Watched Summary) : Work Summary := do
  let (result, reported) ← x.traced
  Run.print c (progressLines reported)
  (result : Except Fault Summary)

/-- Generates the transport if a condition holds. -/
def transportIf (p : Pipeline) (wanted : Bool) : Work Summary := do
  if wanted then return (← p.ensureTransport).toList else return []

/-- The names that stand between commas. -/
def wantedNames (names : String) : List String :=
  ((Text.split ',' names).map Text.strip).filter (· ≠ "")

/-- The models that are named between commas and not left out, or all that are not left out. -/
def chosenModels (c : Console) (p : Pipeline) (models : Value) : Work (List String) :=
  match models.nonempty? with
  | none => (p.availableModels : Except Fault _)
  | some names =>
    (wantedNames names).filterM fun name => do
      if ← (Pipeline.isExcluded p.settings (.text name) : Except Misuse Bool) then
        Run.print c (excludedLine name)
        return false
      else return true

/-- Whether the plan is agreed to, beforehand or when asked. -/
def agreed (beforehand : Bool) : Work Bool := do
  if beforehand then return true else Run.ask planQuestion

/-- Generates the files of many models, after what is planned has been shown and agreed to. -/
def performMany (c : Console) (p : Pipeline) (models groups : List String) (assent : Bool) :
    Work Nat := do
  let files ←
    (Pipeline.estimate (.int models.length) (.ofTexts groups) true : Except Misuse Datum)
  Run.print c (planPanel models groups files.display p.settings.output.basePath.display)
  if ← agreed assent then
    report c (← showingProgress c (p.watchedAll (.ofTexts models) (.ofTexts groups)))
  else do
    Run.print c cancelledLine
    return 0

/-- The models of the backend, each with whether it is left out. -/
def listedModels (p : Pipeline) : Except Fault (List (String × Bool)) := do
  (← p.backend.names).mapM fun name =>
    return (name.display, ← (Pipeline.isExcluded p.settings name : Except Misuse Bool))

/-- Carries out a task with a pipeline. -/
def Task.perform (c : Console) (p : Pipeline) (t : Task) : Work Nat := do
  let groups := t.groups.map Group.name
  if groups.isEmpty then throw (.command .nothingSelected)
  printAll c t.announcement
  match t with
  | .model name =>
    report c (← p.generateFeature (.text name) (.ofTexts [Group.model.name]) false)
  | .service name withRoutes => do
    let transport ← transportIf p true
    report c (transport ++
      (← p.generateFeature (.text name) (.ofTexts [Group.service.name]) withRoutes))
  | .feature name _ => do
    let transport ← transportIf p (groups.contains Group.service.name)
    report c (transport ++
      (← showingProgress c (p.watchedFeature (.text name) (.ofTexts groups) false)))
  | .everything models assent _ => do
    let chosen ← chosenModels c p models
    if chosen.isEmpty then do
      Run.print c nothingLine
      return 0
    else performMany c p chosen groups assent
  | .list => do
    Run.print c (modelTable (← (listedModels p : Except Fault _)))
    return 0

/-! ### Command lines -/

/-- Whether a fault is printed.  Any other fault ends the program. -/
def isPrinted : Fault → Bool
  | .command _ | .settings _ | .description _ | .analysis _ | .variant .. | .template _
  | .registry _ => true
  | _ => false

/-- How severe an event has to be at a level of logging. -/
def thresholdAt (level : Value) : Severity := if level = .word "ERROR" then .error else .warning

/-- Carries out a task with the pipeline that the options describe. -/
def Options.perform (o : Options) (around : Surroundings) (t : Task) : Run Nat := do
  let p ← o.pipeline around
  Work.within o.force (t.perform around.console p)

/-- Carries out what a command line asks for, and gives the exit code. -/
def Invocation.run (i : Invocation) (around : Surroundings) : Run Nat := do
  modify fun s => { s with threshold := thresholdAt i.level }
  match i.task with
  | none => return 1
  | some (task, options) => do
    match ← Run.attempt (options.perform around task) with
    | .ok code => return code
    | .error fault =>
      if isPrinted fault then do
        Run.print around.console (faultLine fault)
        return 1
      else throw fault

end DartScaffold.Command
