/-
**What is asked for on the command line.**

A command line asks for one task, with options that all tasks share, or for none.

Main definitions:

* `Command.Task`, `Command.Options`, `Command.Invocation` — what can be asked for;
* `Command.Invocation.ofWords` — the meaning of a command line;
* `Command.Task.groups` — the groups of files that are not left out.
-/

import DartScaffold.Command.Reading
import DartScaffold.Datum.Basic

set_option relaxedAutoImplicit false
set_option autoImplicit false

namespace DartScaffold.Command

open Pipeline (Group)

/-! ### Tasks -/

/-- A task. -/
inductive Task where
  | model (name : String)
  | service (name : String) (withRoutes : Bool)
  | feature (name : String) (skipped : List Group)
  /-- The models are named between commas, or all are meant. -/
  | everything (models : Value) (assent : Bool) (skipped : List Group)
  | list
deriving DecidableEq, Repr, Inhabited

/-- The options that all tasks share. -/
structure Options where
  manifest : Value
  databaseUrl : Value
  modelsModule : Value
  settingsFile : Value
  output : Value
  force : Bool
deriving DecidableEq, Repr, Inhabited

/-- What a command line asks for. -/
structure Invocation where
  level : Value
  task : Option (Task × Options)
deriving DecidableEq, Repr, Inhabited

namespace Task

/-- The name of the command. -/
def name : Task → String
  | .model _ => "generate-model"
  | .service _ _ => "generate-service"
  | .feature _ _ => "generate-feature"
  | .everything _ _ _ => "generate-all"
  | .list => "list-models"

/-- The groups that are left out. -/
def skipped : Task → List Group
  | .feature _ groups => groups
  | .everything _ _ groups => groups
  | _ => []

/-- The groups that are not left out. -/
def groups (t : Task) : List Group := Group.all.filter fun g => !t.skipped.contains g

/-- The task that a command line gives after the name of the command. -/
def ofGiven (name : String) (given : Given) : Task :=
  let model := given.operand.headD ""
  let has (key : String) : Bool := given.flags.contains key
  let skipped := Group.all.filter fun g => has (skipKey g)
  match name with
  | "generate-model" => .model model
  | "generate-service" => .service model (has "with_routes")
  | "generate-feature" => .feature model skipped
  | "generate-all" => .everything (given.value "models") (has "yes") skipped
  | _ => .list

end Task

/-- The options that a command line gives. -/
def Options.ofGiven (given : Given) : Options where
  manifest := given.value "manifest"
  databaseUrl := given.value "database_url"
  modelsModule := given.value "models_module"
  settingsFile := given.value "config"
  output := given.value "output"
  force := given.flags.contains "force"

/-! ### Reading -/

/-- The level of logging that a command line gives. -/
def levelOf (given : Given) : Value := (given.values.lookup "log_level").getD (.word "WARNING")

/-- Words that belong to nothing end reading. -/
def withoutExtras (extras : List String) (i : Invocation) : Except Stop Invocation :=
  if extras.isEmpty then .ok i else mainGrammar.refuse (.unrecognized extras)

/-- The meaning of a command line. -/
def Invocation.ofWords (words : List String) : Except Stop Invocation := do
  let given ← read mainGrammar words
  match given.operand with
  | [] => withoutExtras given.extras ⟨levelOf given, none⟩
  | name :: rest =>
    match commands.lookup name with
    | none =>
      mainGrammar.refuse (.invalidChoice "COMMAND" name (commands.map Prod.fst))
    | some grammar => do
      let own ← read grammar rest
      withoutExtras (given.extras ++ own.extras)
        ⟨levelOf given, some (.ofGiven name own, .ofGiven own)⟩

/-! ### Documents -/

/-- What belongs to a task alone, as members of a document. -/
def Task.members : Task → List (String × Datum)
  | .model name => [("name", .text name)]
  | .service name withRoutes => [("name", .text name), ("with_routes", .bool withRoutes)]
  | .feature name skipped => ("name", .text name) :: skips skipped
  | .everything models assent skipped =>
    ("models", models.document) :: ("yes", .bool assent) :: skips skipped
  | .list => []
where
  /-- Whether each group is left out. -/
  skips (skipped : List Group) : List (String × Datum) :=
    Group.all.map fun g => (skipKey g, .bool (skipped.contains g))

/-- The options as members of a document. -/
def Options.members (o : Options) : List (String × Datum) := [
  ("manifest", o.manifest.document), ("database_url", o.databaseUrl.document),
  ("models_module", o.modelsModule.document), ("config", o.settingsFile.document),
  ("output", o.output.document), ("force", .bool o.force)]

/-- What a command line asks for, as a document. -/
def Invocation.document (i : Invocation) : Datum :=
  .object (("log_level", i.level.document) ::
    match i.task with
    | none => [("command", .null)]
    | some (task, options) => ("command", .text task.name) :: task.members ++ options.members)

end DartScaffold.Command
