/-
**The outcome of a run.**

Every file that a run means to write has a result: it was written, it was skipped because a file was
there already, or it failed.  A model that cannot be analyzed has a result too.  A run fails if one
of its files does.

Main definitions:

* `Pipeline.Status`, `Pipeline.FileResult` — what became of a file;
* `Pipeline.Summary` — the results of a run in order;
* `Pipeline.Summary.exitCode` — whether the run failed.

Main results:

* `Pipeline.Summary.exitCode_eq_zero_iff` — a run succeeds exactly when nothing failed.
-/

import DartScaffold.Fault

set_option relaxedAutoImplicit false
set_option autoImplicit false

namespace DartScaffold.Pipeline

/-- What became of a file. -/
inductive Status where
  | written
  | skipped
  | failed
deriving DecidableEq, Repr, Inhabited

/-- The name of what became of a file. -/
def Status.name : Status → String
  | .written => "written"
  | .skipped => "skipped"
  | .failed => "failed"

/-- The result of one file. -/
structure FileResult where
  path : String
  status : Status
  component : String
  model : String
  reason : String
deriving DecidableEq, Repr, Inhabited

/-- Whether the file did not fail. -/
def FileResult.ok (r : FileResult) : Bool := r.status != .failed

/-- The results of a run in order. -/
abbrev Summary := List FileResult

namespace Summary

/-- The results with one status. -/
def withStatus (s : Summary) (status : Status) : List FileResult :=
  s.filter fun r => r.status == status

/-- The files that were written. -/
def succeeded (s : Summary) : List FileResult := s.withStatus .written

/-- The files that were skipped. -/
def skipped (s : Summary) : List FileResult := s.withStatus .skipped

/-- What failed. -/
def failed (s : Summary) : List FileResult := s.withStatus .failed

/-- The code that a run ends with. -/
def exitCode (s : Summary) : Nat := if s.failed.isEmpty then 0 else 1

/-- A run succeeds exactly when nothing failed. -/
theorem exitCode_eq_zero_iff (s : Summary) : s.exitCode = 0 ↔ s.failed = [] := by
  simp [exitCode]

end Summary

end DartScaffold.Pipeline
