/-
**References to objects of a program.**

An object of the backend's program is referred to by the module that holds it and the way to it
within the module, as in `shop.models:Order` or `shop.models.Order`.  A module is known under its
full name; a module within another one can only be there if the outer one is a package.  Plain
values have parts of their own: a number is a fraction, and has a real and an imaginary part.

Main definitions:

* `Backend.Modules` — the modules that are known;
* `Backend.Found`, `Backend.Found.part` — what a reference leads to, and its parts;
* `Backend.importObject`, `Backend.importGiven` — the object that a reference leads to, and the one
  that any value does.
-/

import DartScaffold.Datum.Use

set_option relaxedAutoImplicit false
set_option autoImplicit false

namespace DartScaffold.Backend

/-- The modules that are known, each with what it holds; an object holds named parts. -/
abbrev Modules := Entries String Datum

/-- The parts of a reference: the module and the way within it. -/
def splitReference (reference : String) : String × String :=
  match Text.cut? ":" reference with
  | some parts => parts
  | none => (Text.cutLast? "." reference).getD ("", reference)

/-- What is missing when a module is not known: the outermost module that is not, and the one
around it if that is known but holds no modules. -/
def missingModule (modules : Modules) (pieces : List String) : Fault :=
  let names := (List.range pieces.length).map fun n => Text.join "." (pieces.take (n + 1))
  let known (name : String) : Bool := (modules.lookup name).isSome
  match names.find? fun name => !known name with
  | none => .noModule "No module found"
  | some name =>
    let around := ((Text.cutLast? "." name).map Prod.fst).getD ""
    .noModule ("No module named " ++ Text.quoted name ++
      (if around = "" then "" else "; " ++ Text.quoted around ++ " is not a package"))

/-- A module by its name. -/
def importModule (modules : Modules) (name : String) : Except Fault Datum :=
  match modules.lookup name with
  | some d => .ok d
  | none =>
    if Text.startsWith "." name then
      .error (.misuse (.unfit
        ("the 'package' argument is required to perform a relative import for " ++
          Text.quoted name)))
    else .error (missingModule modules (Text.split '.' name))

/-! ### Parts -/

/-- What a reference leads to. -/
inductive Found where
  /-- An object with named parts. -/
  | holder (parts : List (String × Datum))
  | value (d : Datum)
deriving Repr

/-- A part of a module or of a holder as it is found: an object is a holder in turn. -/
def Found.ofPart : Datum → Found
  | .object parts => .holder parts
  | d => .value d

/-- How messages speak of what was found. -/
def Found.kindName : Found → String
  | .holder _ => "types.SimpleNamespace"
  | .value d => d.kindName

/-- The parts of a whole number: it is real, and a fraction. -/
def numberParts (i : Int) : List (String × Datum) :=
  [("real", .int i), ("imag", .int 0), ("numerator", .int i), ("denominator", .int 1)]

/-- The parts that a value has by its kind. -/
def ownParts : Datum → List (String × Datum)
  | .null => [("__doc__", .null)]
  | .bool b => numberParts b.toNat
  | .int i => numberParts i
  | .double d => [("real", .double d), ("imag", .double (.finite false 0 0))]
  | .text _ => []
  | .list _ => [("__hash__", .null)]
  | .object _ => [("__hash__", .null)]

/-- The parts of what was found. -/
def Found.part? (part : String) : Found → Option Found
  | .holder parts =>
    ((parts.lookup part).map .ofPart).or
      (([("__dict__", .object parts), ("__hash__", .null)].lookup part).map .value)
  | .value d => ((ownParts d).lookup part).map .value

/-- A part of what was found. -/
def Found.part (part : String) (found : Found) : Except Fault Found :=
  match found.part? part with
  | some inner => .ok inner
  | none =>
    .error (.noPart ("'" ++ found.kindName ++ "' object has no attribute '" ++ part ++ "'"))

/-- What a module has beside its parts. -/
def moduleParts (module : String) : List (String × Datum) := [
  ("__name__", .text module), ("__doc__", .null), ("__package__", .null), ("__loader__", .null),
  ("__spec__", .null)]

/-- A part of a module. -/
def partOfModule (module part : String) (d : Datum) : Except Fault Found :=
  match (d.member? part).or ((moduleParts module).lookup part) with
  | some inner => .ok (.ofPart inner)
  | none => .error (.noPart ("module '" ++ module ++ "' has no attribute '" ++ part ++ "'"))

/-! ### References -/

/-- The object that a reference leads to. -/
def importObject (modules : Modules) (reference : String) : Except Fault Found := do
  let (module, way) := splitReference reference
  if module = "" ∨ way = "" then
    throw (.noImport ("Invalid object reference: " ++ Text.quoted reference))
  let found ← importModule modules module
  match Text.split '.' way with
  | [] => return .ofPart found
  | first :: rest => rest.foldlM (fun d part => d.part part) (← partOfModule module first found)

/-- The text that a value is as a reference: it is searched for a colon and then cut. -/
def referenceText (reference : Datum) : Except Misuse String := do
  let hasColon ← Datum.holds (.text ":") reference
  reference.textFor (if hasColon then "partition" else "rpartition")

/-- The object that any value refers to: only a text can be taken apart. -/
def importGiven (modules : Modules) (reference : Datum) : Except Fault Found :=
  match referenceText reference with
  | .ok s => importObject modules s
  | .error m => .error (.misuse m)

end DartScaffold.Backend
