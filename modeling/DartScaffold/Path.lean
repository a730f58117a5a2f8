/-
**Paths of files.**

A path is a root, which is empty for a relative path, and the names on the way.  Reading a path
drops empty names and single dots and keeps double dots; exactly two leading slashes are a root of
their own, any other number of them is one slash.  Joining a path with an absolute one gives the
absolute one.

Main definitions:

* `Path` — a path;
* `Path.ofString`, `Path.text` — reading and writing;
* `Path.join`, `Path.parent`, `Path.name`, `Path.extension` — the usual operations.

Main results:

* `Path.join_nil` — joining with the empty path changes nothing.
-/

import DartScaffold.Text.Split

set_option relaxedAutoImplicit false
set_option autoImplicit false

namespace DartScaffold

/-- A path: its root and the names on the way. -/
structure Path where
  /-- Empty for a relative path, else one or two slashes. -/
  root : String
  /-- The names; none is empty or a single dot. -/
  names : List String
deriving DecidableEq, Repr, Inhabited

namespace Path

/-- The root that a number of leading slashes stands for. -/
def rootOf (slashes : Nat) : String :=
  if slashes = 0 then "" else if slashes = 2 then "//" else "/"

/-- The path that a text writes. -/
def ofString (s : String) : Path where
  root := rootOf (s.toList.takeWhile (· == '/')).length
  names := (Text.split '/' s).filter fun name => name != "" && name != "."

/-- The written path; a path without root and names is a dot. -/
def text (p : Path) : String :=
  if p.root = "" ∧ p.names = [] then "." else p.root ++ Text.join "/" p.names

/-- The path followed by another one. -/
def join (p q : Path) : Path :=
  if q.root = "" then ⟨p.root, p.names ++ q.names⟩ else q

/-- Joining with the empty path changes nothing. -/
@[simp] theorem join_nil (p : Path) : p.join ⟨"", []⟩ = p := by
  simp [join]

/-- The path of the directory that holds the file. -/
def parent (p : Path) : Path := ⟨p.root, p.names.dropLast⟩

/-- The last name; empty if there is none. -/
def name (p : Path) : String := p.names.getLast?.getD ""

/-- The end of the last name from its last dot on; empty if the dot begins or ends the name. -/
def extension (p : Path) : String :=
  match Text.cutLast? "." p.name with
  | some (before, after) => if before = "" ∨ after = "" then "" else "." ++ after
  | none => ""

end Path

end DartScaffold
