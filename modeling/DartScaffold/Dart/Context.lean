/-
**What a file is generated from besides its model.**

Generated code depends on the settings and on the names that were given before.  This module holds
both together, with what all generated files draw from them: the name of a model's class, the
columns that are not left out, the mark of a type that may be missing, and comments where they are
wanted.

Main definitions:

* `Dart.Context` — the settings and the names;
* `Dart.Context.typeName`, `Dart.Context.included`, `Dart.Context.comment` — what is drawn from
  them;
* `Dart.Context.problems` — what is odd about a model;
* `Dart.recordName` — how messages speak of a kind of record.

Main results:

* `Dart.Context.comment_of_not_wanted` — without documentation there is no comment;
* `Dart.Context.mem_included` — a column is included unless its name is left out.
-/

import DartScaffold.Dart.Layout
import DartScaffold.Dart.Place
import DartScaffold.Naming.Sanitizer
import DartScaffold.Schema.Model

set_option relaxedAutoImplicit false
set_option autoImplicit false

namespace DartScaffold.Dart

/-! ### Qualified names -/

/-- The name of a module of generators as messages write it. -/
def qualifiedName (module : String) : String := "flutter_codegen.codegen.flutter." ++ module

/-- The name of a kind of record in a module as messages write it. -/
def recordName (module kind : String) : String := qualifiedName module ++ "." ++ kind

/-- The settings, and the names with those given before. -/
structure Context where
  settings : Settings
  names : Naming.Names
deriving Repr, Inhabited

namespace Context

/-- Whether types tell if a value may be missing. -/
def nullSafe (c : Context) : Bool := c.settings.code.nullSafety.truthy

/-- The mark of a type whose value may be missing. -/
def mark (c : Context) : String := if c.nullSafe then "?" else ""

/-- The name of a model's class. -/
def typeName (c : Context) (m : Model) : String := c.names.type m.className

/-- The name of a variable for one instance of a model. -/
def variableName (c : Context) (m : Model) : String :=
  match (c.typeName m).toList with
  | [] => ""
  | first :: rest => Text.lower (String.singleton first) ++ String.ofList rest

/-- The path of a model's collection. -/
def endpoint (m : Model) : String := Naming.pluralize (Naming.snake m.className)

/-! ### Columns -/

/-- Whether the column of a name is left out. -/
def isLeftOut (c : Context) (name : Datum) : Bool :=
  name.isIn c.settings.analysis.excludedAttributes

/-- The columns that are not left out, in order. -/
def included (c : Context) (m : Model) : List Attribute :=
  (m.attributes.filter fun (name, _) => !c.isLeftOut name).map Prod.snd

/-- A column is included unless its name is left out. -/
theorem mem_included (c : Context) (m : Model) (a : Attribute) :
    a ∈ c.included m ↔ ∃ name, (name, a) ∈ m.attributes ∧ c.isLeftOut name = false := by
  simp [included]

/-- The columns that the backend fills in itself. -/
def systemColumns : List String := ["id", "created_at", "updated_at", "deleted_at"]

/-! ### Comments and warnings -/

/-- A comment for documentation, if it is wanted. -/
def comment (c : Context) (width : Nat) (s : String) : String :=
  if c.settings.code.documentation.truthy then Dart.comment width s else ""

/-- Without documentation there is no comment. -/
theorem comment_of_not_wanted {c : Context} (h : c.settings.code.documentation.truthy = false)
    (width : Nat) (s : String) : c.comment width s = "" := by
  simp [comment, h]

/-- What is odd about a model: it has no columns, or it speaks of columns that it does not have. -/
def problems (m : Model) : Except Misuse (List String) := do
  let declared ← Datum.ordered
    (Datum.distinct (m.fillable ++ m.hidden ++ Entries.keys m.casts))
  let none :=
    if m.attributes.isEmpty then
      ["Model '" ++ m.className ++ "' has no attributes (table '" ++ m.table.display ++
        "' missing or empty)"]
    else []
  let ghosts := declared.filter fun d =>
    !(Entries.keys m.attributes).any fun name => d.same name
  return none ++ ghosts.map fun d => m.className ++ "." ++ d.display ++
    " is declared on the model but is not a column; no field is generated for it"

end Context

end DartScaffold.Dart
