/-
**Filters.**

A filter changes a value on its way into a gap.  There are filters for the forms of a name, for
the plural, and for two ways of laying out a text of several lines: moved to the right, and as a
comment for documentation.

Main definitions:

* `Template.indentLines`, `Template.commentLines` — the layouts;
* `Template.filters` — the filters by name;
* `Template.applyFilter` — a filter applied.
-/

import DartScaffold.Naming.Plural
import DartScaffold.Template.Value

set_option relaxedAutoImplicit false
set_option autoImplicit false

namespace DartScaffold.Template

/-! ### Layouts -/

/-- The text with its lines moved to the right; blank lines stay as they are. -/
def indentLines (width : Nat) (s : String) : String :=
  Text.join "\n" ((Text.split '\n' s).map fun line =>
    if Text.strip line = "" then line else Text.spaces width ++ line)

/-- The text as a comment for documentation, line by line. -/
def commentLines (width : Nat) (s : String) : String :=
  Text.join "\n" ((Text.split '\n' s).map fun line =>
    Text.stripEnd (Text.spaces width ++ "/// " ++ line))

/-! ### Filters by name -/

/-- A filter: what it makes of a value and further arguments. -/
abbrev Filter := Value → Arguments → Except RenderFault String

/-- The arguments are not those that the filter takes. -/
def badArguments : RenderFault := .misuse (.unfit "the filter takes other arguments")

/-- The filter for a form of a name; a value that counts as nothing has an empty name. -/
def nameFilter (form : String → String) : Filter := fun v arguments => do
  if !arguments.isEmpty then throw badArguments
  if ← v.truthy then return form (← v.display) else return form ""

/-- The filter for the plural. -/
def pluralFilter : Filter := fun v arguments => do
  if !arguments.isEmpty then throw badArguments
  if !(← v.truthy) then return ""
  match v with
  | .datum d => (Naming.pluralOf d : Except Misuse String)
  | v => throw (.misuse (.lacksOperation v.kindName "lower"))

/-- A width that is given, or the usual one. -/
def widthOf (usual : Int) : Option Value → Except RenderFault Int
  | none => .ok usual
  | some (.datum (.int i)) => .ok i
  | some (.datum (.bool b)) => .ok b.toNat
  | some (.undefined reason) | some (.nothing reason) => .error (.template reason)
  | some v => .error (.misuse (.unfit
      ("can't multiply sequence by non-int of type '" ++ v.kindName ++ "'")))

/-- The filter for a layout with a width, which may be given by name; a width below zero is
zero. -/
def widthFilter (name : String) (usual : Int) (layout : Nat → String → String) : Filter :=
  fun v arguments => do
    let given ←
      match arguments with
      | [] => pure none
      | [(none, w)] => pure (some w)
      | [(some n, w)] => if n = name then pure (some w) else throw badArguments
      | _ => throw badArguments
    let width ← widthOf usual given
    return layout width.toNat (← v.display)

/-- The filters by name. -/
def filters : List (String × Filter) := [
  ("snake_case", nameFilter Naming.snake), ("camel_case", nameFilter Naming.camel),
  ("pascal_case", nameFilter Naming.pascal), ("kebab_case", nameFilter Naming.kebab),
  ("title_words", nameFilter Naming.title), ("plural", pluralFilter),
  ("indent_code", widthFilter "spaces" 2 indentLines),
  ("doc_comment", widthFilter "indent" 0 commentLines)]

/-- A filter applied to a value. -/
def applyFilter (name : String) (v : Value) (arguments : Arguments) :
    Except RenderFault Value := do
  match filters.lookup name with
  | none => throw (.template ("No filter named " ++ Text.quoted name ++ " found."))
  | some f => return .text (← f v arguments)

end DartScaffold.Template
