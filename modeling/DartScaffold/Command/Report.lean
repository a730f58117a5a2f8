/-
**What a command prints.**

A command says what it is about to do, and at the end what became of every file.  Everything is
printed with markup in square brackets; the names of models and files stand in it as they are.

Main definitions:

* `Command.Task.announcement` — what is printed before the files for one model are generated;
* `Command.planPanel` — what is planned for many models;
* `Command.modelTable` — the models of a backend;
* `Command.progressLines` — how far a run has come;
* `Command.summaryLines` — what became of the files.
-/

import DartScaffold.Command.Invocation
import DartScaffold.Pipeline.Outcome
import DartScaffold.Session
import DartScaffold.Text.Split

set_option relaxedAutoImplicit false
set_option autoImplicit false

namespace DartScaffold.Command

open Pipeline (Status FileResult Summary)

/-! ### Before a run -/

/-- A text in bold. -/
def bold (s : String) : String := "[bold]" ++ s ++ "[/bold]"

/-- What is printed before the files for one model are generated. -/
def Task.announcement : Task → List Printed
  | .model name => [.line ("🎯 Generating Dart model for " ++ bold name)]
  | .service name _ => [.line ("🔌 Generating API service for " ++ bold name)]
  | .feature name _ => [.line ("🚀 Generating feature for " ++ bold name)]
  | .everything .. => []
  | .list => []

/-- What is printed about a model that is asked for but left out. -/
def excludedLine (name : String) : Printed :=
  .line ("[yellow]⚠️ Model '" ++ name ++ "' is excluded from generation.[/yellow]")

/-- What is printed when there is nothing to generate files for. -/
def nothingLine : Printed := .line "[yellow]⚠️ No models found to generate.[/yellow]"

/-- The question before files are generated for many models. -/
def planQuestion : String := "Do you want to continue with the generation?"

/-- What is printed when the question is answered with no. -/
def cancelledLine : Printed := .line "Generation cancelled."

/-- What is planned for many models. -/
def planPanel (models groups : List String) (files directory : String) : Printed :=
  let lines := [bold "Models to process:" ++ " " ++ toString models.length] ++
    models.map ("  • " ++ ·) ++
    [bold "Components:" ++ " " ++ Text.join ", " groups,
      bold "Estimated files:" ++ " " ++ files, bold "Output:" ++ " " ++ directory]
  .panel "🗂️ Generation Plan" (Text.split '\n' (Text.join "\n" lines))

/-! ### Lists -/

/-- The models of a backend, each with whether it is left out. -/
def modelTable : List (String × Bool) → Printed
  | [] => .line "[yellow]⚠️ No models found[/yellow]"
  | models =>
    .table "📋 Available Models" ["Model", "Status"] <| models.map fun (name, excluded) =>
      [name, if excluded then "[dim]excluded[/dim]" else "available"]

/-! ### During a run -/

/-- What was come to last, in the style that the console has for it. -/
def progressLine (description : String) : String := "[progress.description]" ++ description

/-- What a result is about. -/
def progressOf (r : FileResult) : String := Text.strip (r.component ++ " " ++ r.model)

/-- How far a run has come, at first and with each of its results. -/
def progressLines (reported : Summary) : Printed :=
  .progress (progressLine "Generating" :: reported.map fun r => progressLine (progressOf r))

/-! ### After a run -/

/-- What became of a file, in colour. -/
def statusCell : Status → String
  | .written => "[green]✓ written[/green]"
  | .skipped => "[yellow]↷ skipped[/yellow]"
  | .failed => "[red]✗ failed[/red]"

/-- What became of each file. -/
def summaryTable (s : Summary) : List Printed :=
  if s.isEmpty then []
  else [.table "📊 Generation Summary" ["File", "Status", "Reason"]
    (s.map fun r => [r.path, statusCell r.status, r.reason])]

/-- How many files have each status. -/
def countsLine (s : Summary) : Printed :=
  .line ("[green]Succeeded: " ++ toString s.succeeded.length ++ "[/green]  [yellow]Skipped: " ++
    toString s.skipped.length ++ "[/yellow]  [red]Failed: " ++ toString s.failed.length ++
    "[/red]")

/-- What is printed after a run. -/
def summaryLines (s : Summary) : List Printed :=
  summaryTable s ++ [countsLine s] ++
    if s.exitCode = 0 then [.line "🎉 [green]Generation complete[/green]"] else []

/-- What is printed when a command cannot be carried out. -/
def faultLine (fault : Fault) : Printed := .line ("[red]✗ Error:[/red] " ++ fault.message)

end DartScaffold.Command
