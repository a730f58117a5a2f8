/-
**The state of a pipeline.**

A pipeline works on a session.  It makes a generator for a component when it first needs one and
keeps it, and it analyzes the routes of the backend once.  What is kept stays when a step fails.

Main definitions:

* `Pipeline.Workshop`, `Pipeline.Work` — the state, and a computation on it;
* `Pipeline.Work.now`, `Pipeline.Work.change` — looking at the state and changing it;
* `Pipeline.Work.attempt` — a computation whose fault is its result;
* `Pipeline.Work.within` — a computation on a fresh workshop, as a run.
-/

import DartScaffold.Dart.Generator
import DartScaffold.Routing.Analysis

set_option relaxedAutoImplicit false
set_option autoImplicit false

namespace DartScaffold.Pipeline

/-- What a pipeline works with and what it keeps. -/
structure Workshop where
  session : Session
  /-- Whether files that are there are overwritten without asking. -/
  force : Bool
  generators : Entries String Dart.Generator
  routes : Option Routing.Analysis

/-- A workshop in which nothing was made. -/
def Workshop.start (session : Session) (force : Bool) : Workshop := ⟨session, force, [], none⟩

/-- A computation on a workshop that may end in a fault. -/
abbrev Work (α : Type) := ExceptT Fault (StateM Workshop) α

namespace Work

/-- A run as a computation on the session of a workshop. -/
def ofRun {α : Type} (x : Run α) : Work α :=
  ExceptT.mk do
    let w ← get
    let (result, session) := x.run.run w.session
    set { w with session := session }
    return result

instance : MonadLift Run Work := ⟨ofRun⟩

/-- The workshop as it is. -/
def now : Work Workshop :=
  ExceptT.mk do
    let w ← get
    return .ok w

/-- Changes the workshop. -/
def change (f : Workshop → Workshop) : Work Unit :=
  ExceptT.mk do
    modify f
    return .ok ()

/-- A computation whose fault is its result. -/
def attempt {α : Type} (x : Work α) : Work (Except Fault α) :=
  ExceptT.mk do
    let result ← x.run
    return .ok result

/-- A computation on a fresh workshop, as a run. -/
def within {α : Type} (force : Bool) (x : Work α) : Run α :=
  ExceptT.mk do
    let session ← get
    let (result, w) := x.run.run (Workshop.start session force)
    set w.session
    return result

end Work

end DartScaffold.Pipeline
