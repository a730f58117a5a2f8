/-
**A run and what it leaves behind.**

A run reads and writes files, logs warnings and errors, asks questions, prints, and sends requests
to the web.  All of these are kept in one state, the session, so that what happened before a fault
is still there after it.  Questions are answered from a list given in advance; when it is used up
the answer is no.  What is printed is shown by a console, which takes tags in it for markup and may
refuse to show something; a run that prints it ends in a fault then.

Main definitions:

* `Session` — the state;
* `Session.printed`, `Session.asked` — what was printed, and the questions that were asked;
* `Console`, `Console.ShowsInOrder`, `Console.strict` — what shows what is printed;
* `Run` — a computation on the state that may end in a fault;
* `Severity`, `LogEntry` — logged events, of which only those severe enough are kept;
* `Run.warn`, `Run.logError`, `Run.ask`, `Run.print`, `Run.send` — what a run does beside files;
* `Run.attempt` — a run whose fault is its result.

Main results:

* `Console.showsInOrder_strict` — the strict console shows what is in order;
* `Run.attempt_throw` — attempting a failed run gives the fault and keeps the state.
-/

import DartScaffold.Fault
import DartScaffold.Text.Markup
import DartScaffold.Web.Exchange

set_option relaxedAutoImplicit false
set_option autoImplicit false

namespace DartScaffold

/-! ### The state -/

/-- How severe a logged event is. -/
inductive Severity where
  | warning
  | error
deriving DecidableEq, Repr

/-- Whether an event is at least as severe as a threshold. -/
def Severity.reaches (severity threshold : Severity) : Bool :=
  threshold == .warning || severity == .error

/-- A logged event. -/
structure LogEntry where
  severity : Severity
  text : String
deriving DecidableEq, Repr

/-- A logged event as a line. -/
def LogEntry.line (e : LogEntry) : String :=
  (match e.severity with
    | .warning => "WARNING "
    | .error => "ERROR ") ++ e.text

/-- Something printed. -/
inductive Printed where
  | line (markup : String)
  | table (title : String) (columns : List String) (rows : List (List String))
  | panel (title : String) (lines : List String)
  /-- How far a run has come, in one line that is written over again and again and then removed. -/
  | progress (lines : List String)
deriving DecidableEq, Repr

/-- The texts in which markup is looked for, each of them for itself. -/
def Printed.texts : Printed → List String
  | .line markup => [markup]
  | .table title columns rows => title :: columns ++ rows.flatten
  | .panel title lines => [title, Text.join "\n" lines]
  | .progress lines => lines

/-- What whoever runs the program sees: something printed, or a question. -/
inductive Shown where
  | printed (what : Printed)
  | asked (question : String)
deriving DecidableEq, Repr

/-- The files, and what happened so far, each in order. -/
structure Session where
  tree : FileTree
  log : List LogEntry
  /-- How severe an event has to be for the log to keep it. -/
  threshold : Severity
  /-- The answers to the questions not yet asked. -/
  answers : List Bool
  shown : List Shown
  /-- What answers requests to the web. -/
  web : Web.Service
  requested : List Web.Request

/-- A session on some files in which nothing has happened. -/
def Session.start (tree : FileTree) (answers : List Bool) (web : Web.Service) : Session :=
  ⟨tree, [], .warning, answers, [], web, []⟩

/-- What was printed. -/
def Session.printed (s : Session) : List Printed :=
  s.shown.filterMap fun
    | .printed what => some what
    | .asked _ => none

/-- The questions that were asked. -/
def Session.asked (s : Session) : List String :=
  s.shown.filterMap fun
    | .printed _ => none
    | .asked question => some question

/-! ### Consoles -/

/-- What shows what is printed.  It may refuse to show something, for a reason. -/
structure Console where
  refusal? : Printed → Option String

/-- No text of something printed has a tag that closes a style which is not open. -/
def Printed.IsInOrder (what : Printed) : Prop :=
  ∀ text ∈ what.texts, Text.Markup.IsInOrder text

/-- A console shows whatever is in order. -/
def Console.ShowsInOrder (c : Console) : Prop :=
  ∀ what : Printed, what.IsInOrder → c.refusal? what = none

/-- The console that shows nothing else, and names the tag. -/
def Console.strict : Console where
  refusal? what :=
    (what.texts.findSome? fun text => Text.Markup.unmatched? false [] text.toList).map fun tag =>
      "closing tag '[" ++ String.ofList tag ++ "]' doesn't match any open tag"

theorem Console.showsInOrder_strict : strict.ShowsInOrder := by
  intro what h
  unfold strict
  rw [Option.map_eq_none_iff, List.findSome?_eq_none_iff]
  exact h

/-! ### Steps -/

/-- A computation on a session that may end in a fault. -/
abbrev Run (α : Type) := ExceptT Fault (StateM Session) α

namespace Run

/-- The files as they are. -/
def tree : Run FileTree := return (← get).tree

/-- Logs events of one severity, if it is severe enough. -/
def record (severity : Severity) (texts : List String) : Run Unit :=
  modify fun s =>
    if severity.reaches s.threshold then
      { s with log := s.log ++ texts.map fun t => ⟨severity, t⟩ }
    else s

/-- Logs a warning. -/
def warn (text : String) : Run Unit := record .warning [text]

/-- Logs an error. -/
def logError (text : String) : Run Unit := record .error [text]

/-- Logs warnings. -/
def warnAll (texts : List String) : Run Unit := record .warning texts

/-- Asks a question.  How it is put does not matter here: the answer is given beforehand. -/
def ask (question : String) : Run Bool := do
  let s ← get
  set { s with shown := s.shown ++ [Shown.asked question], answers := s.answers.tail }
  return s.answers.headD false

/-- Prints something.  What the console refuses ends the run. -/
def print (c : Console) (what : Printed) : Run Unit :=
  match c.refusal? what with
  | none => modify fun s => { s with shown := s.shown ++ [Shown.printed what] }
  | some reason => throw (.raised reason)

/-- Sends a request to the web. -/
def send (request : Web.Request) : Run (Except Web.Refusal Web.Response) := do
  let s ← get
  set { s with requested := s.requested ++ [request] }
  return s.web request

/-! ### Faults -/

/-- A run whose fault is its result. -/
def attempt {α : Type} (x : Run α) : Run (Except Fault α) :=
  ExceptT.mk do
    let result ← x.run
    return .ok result

/-- Attempting a failed run gives the fault. -/
theorem attempt_throw {α : Type} (f : Fault) :
    attempt (throw f : Run α) = (return .error f) := rfl

end Run

end DartScaffold
