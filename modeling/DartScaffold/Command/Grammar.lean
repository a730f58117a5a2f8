/-
**The words of the command line.**

A command line has switches, which begin with a dash, and operands.  A switch takes a value or none;
one operand names the command, and some commands have an operand of their own.  Each command has its
own switches, beside those that all commands share.

Main definitions:

* `Command.Action`, `Command.Switch`, `Command.Operand`, `Command.Grammar` — what may be written;
* `Command.mainGrammar`, `Command.commands` — the words before and after the name of a command.
-/

import DartScaffold.Pipeline.Plan

set_option relaxedAutoImplicit false
set_option autoImplicit false

namespace DartScaffold.Command

/-! ### What may be written -/

/-- What a switch does. -/
inductive Action where
  /-- It sets a text, which follows it. -/
  | text
  /-- It sets one of some words, which follows it in any case. -/
  | choice (words : List String)
  | flag
  | help
  | version
deriving DecidableEq, Repr, Inhabited

/-- Whether a value follows the switch. -/
def Action.takesValue : Action → Bool
  | .text => true
  | .choice _ => true
  | _ => false

/-- A switch. -/
structure Switch where
  names : List String
  /-- The name of what it sets. -/
  key : String
  action : Action
deriving Repr, Inhabited

/-- How messages speak of a switch. -/
def Switch.title (s : Switch) : String := Text.join "/" s.names

/-- The operand that is not a switch. -/
inductive Operand where
  | none
  | one (name : String)
  /-- A word and everything after it. -/
  | remainder
deriving DecidableEq, Repr, Inhabited

/-- What may be written on a command line, or on a part of it. -/
structure Grammar where
  program : String
  switches : List Switch
  operand : Operand
deriving Repr, Inhabited

namespace Grammar

/-- The names of the switches in order, each with its switch. -/
def names (g : Grammar) : List (String × Switch) :=
  g.switches.flatMap fun s => s.names.map fun name => (name, s)

/-- The switch of a name. -/
def find? (g : Grammar) (name : String) : Option Switch := g.names.lookup name

end Grammar

/-! ### The words of this program -/

/-- The name of the program. -/
def program : String := "flutter-codegen"

/-- The version of the program. -/
def version : String := "0.1.0"

/-- What is written when the version is asked for. -/
def versionLine : String := program ++ " " ++ version

/-- The levels of logging. -/
def levels : List String := ["DEBUG", "INFO", "WARNING", "ERROR"]

/-- The switch that asks for help. -/
def helpSwitch : Switch := ⟨["-h", "--help"], "help", .help⟩

/-- The words before the name of a command. -/
def mainGrammar : Grammar where
  program := program
  switches := [
    helpSwitch, ⟨["--version"], "version", .version⟩,
    ⟨["--log-level"], "log_level", .choice levels⟩]
  operand := .remainder

/-- The switches that all commands share. -/
def sharedSwitches : List Switch := [
  ⟨["--manifest"], "manifest", .text⟩, ⟨["--database-url"], "database_url", .text⟩,
  ⟨["--models-module"], "models_module", .text⟩, ⟨["--config"], "config", .text⟩,
  ⟨["--output", "-o"], "output", .text⟩, ⟨["--force", "-f"], "force", .flag⟩]

/-- The name of what leaves out a group of files. -/
def skipKey (g : Pipeline.Group) : String := "skip_" ++ g.name

/-- The switches that leave out groups of files. -/
def skipSwitches : List Switch :=
  Pipeline.Group.all.map fun g => ⟨["--skip-" ++ g.name], skipKey g, .flag⟩

/-- The words after the name of a command. -/
def commandGrammar (name : String) (switches : List Switch) (operand : Operand) :
    String × Grammar :=
  (name, ⟨program ++ " " ++ name, helpSwitch :: switches ++ sharedSwitches, operand⟩)

/-- The commands, each with the words that follow its name. -/
def commands : List (String × Grammar) := [
  commandGrammar "generate-model" [] (.one "name"),
  commandGrammar "generate-service" [⟨["--with-routes"], "with_routes", .flag⟩] (.one "name"),
  commandGrammar "generate-feature" skipSwitches (.one "name"),
  commandGrammar "generate-all"
    ([⟨["--models"], "models", .text⟩, ⟨["--yes", "-y"], "yes", .flag⟩] ++ skipSwitches) .none,
  commandGrammar "list-models" [] .none]

end DartScaffold.Command
