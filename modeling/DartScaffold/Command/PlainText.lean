/-
**What is printed, as plain text.**

What a command prints carries markup.  As plain text it stands without the tags, with one line for
each row of a table.  The line that shows how far a run has come is removed in the end.

Main definitions:

* `Command.withoutMarkup` — a text without the tags;
* `Command.plainLines` — the lines for something printed;
* `Command.Stop.lines` — the lines that are written when reading a command line ends early.
-/

import DartScaffold.Command.Reading
import DartScaffold.Session
import DartScaffold.Text.Split

set_option relaxedAutoImplicit false
set_option autoImplicit false

namespace DartScaffold.Command

/-! ### Markup -/

/-- The tags of markup, without their brackets. -/
def tags : List String :=
  ["bold", "dim", "green", "yellow", "red"].flatMap fun name => [name, "/" ++ name]

/-- A piece of text that follows an opening bracket, without the tag that the bracket opens. -/
def afterBracket (piece : String) : String :=
  match Text.cut? "]" piece with
  | some (tag, rest) => if tags.contains tag then rest else "[" ++ piece
  | none => "[" ++ piece

/-- A text without the tags. -/
def withoutMarkup (s : String) : String :=
  match Text.split '[' s with
  | [] => s
  | first :: rest => first ++ Text.join "" (rest.map afterBracket)

/-- The lines for something printed. -/
def plainLines : Printed → List String
  | .line markup => [withoutMarkup markup]
  | .table title columns rows =>
    title :: (columns :: rows).map fun cells => Text.join "  " (cells.map withoutMarkup)
  | .panel title lines => title :: lines.map withoutMarkup
  | .progress _ => []

/-! ### Help -/

/-- How a switch is written, with a word for what it takes. -/
def Switch.usage (s : Switch) : String :=
  let value :=
    match s.action with
    | .text => " VALUE"
    | .choice _ => " LEVEL"
    | _ => ""
  "[" ++ Text.join " | " s.names ++ value ++ "]"

/-- What may be written on a command line, on one line. -/
def Grammar.usage (g : Grammar) : String :=
  let operand :=
    match g.operand with
    | .none => []
    | .one name => [name]
    | .remainder => [Text.join " | " (commands.map Prod.fst), "..."]
  Text.join " " (["usage:", g.program] ++ g.switches.map Switch.usage ++ operand)

/-- The help for a program, or for one of its commands. -/
def helpLines (program : String) : List String :=
  ((mainGrammar :: commands.map Prod.snd).filter fun g => g.program == program).map Grammar.usage

/-- The lines that are written when reading a command line ends early. -/
def Stop.lines : Stop → List String
  | .help program => helpLines program
  | .version => [versionLine]
  | .usage program fault => helpLines program ++ [(Stop.usage program fault).usageLine]

end DartScaffold.Command
