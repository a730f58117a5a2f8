/-
**Filling templates.**

A template is filled from left to right in a scope of named values.  A name given on the way holds
from there on, also after the end of the part that it was given in, but a repeated part keeps its
names to itself.  Inside a repeated part the name `loop` tells which of how many items is at hand.

Main definitions:

* `Template.Scope` — named values;
* `Template.eval` — the value of an expression;
* `Template.renderSegments`, `Template.render` — the text of parts, and of a template.

Main results:

* `Template.renderSegments_append` — the text of parts in a row is the texts in a row.
-/

import DartScaffold.Template.Basic
import DartScaffold.Template.Filter
import DartScaffold.Template.Operation

set_option relaxedAutoImplicit false
set_option autoImplicit false

namespace DartScaffold.Template

/-- The values that names have. -/
abbrev Scope := Entries String Value

/-! ### Expressions -/

/-- The value of a name; some names are known to every template. -/
def valueOf (scope : Scope) (name : String) : Value :=
  match scope.lookup name, builtins.lookup name with
  | some v, _ => v
  | none, some b => .builtin b
  | none, none => .undefined (Text.quoted name ++ " is undefined")

/-- An object of members that are texts by name. -/
def objectOf (members : List (Value × Value)) : Except RenderFault Value := do
  let found ← members.mapM fun (key, v) =>
    match key.datum?, v.datum? with
    | some (.text k), some d => .ok (k, d)
    | _, _ => .error (RenderFault.misuse (.unhashable key.kindName))
  return .datum (.object (found.foldl (fun (ms : Entries String Datum) (k, d) => ms.put k d) []))

mutual

/-- The value of an expression. -/
def eval (scope : Scope) : Expr → Except RenderFault Value
  | .literal d => .ok (.datum d)
  | .nothing reason => .ok (.nothing reason)
  | .name n => .ok (valueOf scope n)
  | .member e n => do (← eval scope e).member n
  | .element e k => do
    let v ← eval scope e
    v.element (← eval scope k)
  | .call e given => do
    let v ← eval scope e
    v.call (← evalGiven scope given)
  | .filter n e given => do
    let v ← eval scope e
    applyFilter n v (← evalGiven scope given)
  | .test n e given => do
    let v ← eval scope e
    return .flag (← applyTest n v (← evalGiven scope given))
  | .sign negative e => do (← eval scope e).signed negative
  | .operate how a b => do
    let v ← eval scope a
    v.operate how (← eval scope b)
  | .compare how a b => do
    let v ← eval scope a
    return .flag (← v.relate how (← eval scope b))
  | .join a b => do
    let v ← eval scope a
    let w ← eval scope b
    let s ← v.display
    return .text (s ++ (← w.display))
  | .negate e => do return .flag !(← (← eval scope e).truthy)
  | .both a b => do
    let v ← eval scope a
    if ← v.truthy then eval scope b else return v
  | .either a b => do
    let v ← eval scope a
    if ← v.truthy then return v else eval scope b
  | .choose test yes no => do
    if ← (← eval scope test).truthy then eval scope yes else eval scope no
  | .list items => do return .list (← evalItems scope items)
  | .tuple items => do return .tuple (← evalItems scope items)
  | .object members => do objectOf (← evalMembers scope members)

/-- The values that a function, a filter or a test is given. -/
def evalGiven (scope : Scope) : List (Option String × Expr) → Except RenderFault Arguments
  | [] => .ok []
  | (n, e) :: rest => do
    let v ← eval scope e
    return (n, v) :: (← evalGiven scope rest)

/-- The values of the items of a list. -/
def evalItems (scope : Scope) : List Expr → Except RenderFault (List Value)
  | [] => .ok []
  | e :: rest => do
    let v ← eval scope e
    return v :: (← evalItems scope rest)

/-- The values of the members of an object. -/
def evalMembers (scope : Scope) : List (Expr × Expr) → Except RenderFault (List (Value × Value))
  | [] => .ok []
  | (k, e) :: rest => do
    let key ← eval scope k
    let v ← eval scope e
    return (key, v) :: (← evalMembers scope rest)

end

/-! ### Names on the way -/

mutual

/-- The scope in which an item has its names. -/
def bindTarget (scope : Scope) : Target → Value → Except RenderFault Scope
  | .name n, v => .ok (scope.put n v)
  | .tuple parts, v => do bindEach scope parts (← v.items)

/-- The scope in which each of several items has its names. -/
def bindEach (scope : Scope) : List Target → List Value → Except RenderFault Scope
  | [], [] => .ok scope
  | t :: ts, v :: vs => do bindEach (← bindTarget scope t v) ts vs
  | [], _ :: _ => .error (.misuse (.notNumeral "too many values to unpack"))
  | _ :: _, [] => .error (.misuse (.notNumeral "not enough values to unpack"))

end

/-- An item by its number, or no value where there is none. -/
def neighbour (items : List Value) (missing : String) : Option Nat → Value
  | none => .undefined missing
  | some i => items.getD i (.undefined missing)

/-- What the name `loop` stands for at the item with a number. -/
def loopValue (items : List Value) (number : Nat) : Value :=
  let count := items.length
  let operation (name : String) : String × Value :=
    (name, .builtin (.operation "method" "LoopContext" name))
  .record "jinja2.runtime.LoopContext"
    (some ("<LoopContext " ++ toString (number + 1) ++ "/" ++ toString count ++ ">")) [] [
    ("index", .datum (.int (number + 1))), ("index0", .datum (.int number)),
    ("revindex", .datum (.int (count - number))), ("revindex0", .datum (.int (count - number - 1))),
    ("first", .flag (number == 0)), ("last", .flag (number + 1 == count)),
    ("length", .datum (.int count)), ("depth", .datum (.int 1)), ("depth0", .datum (.int 0)),
    ("previtem", neighbour items "there is no previous item"
      (if number = 0 then none else some (number - 1))),
    ("nextitem", neighbour items "there is no next item" (some (number + 1))),
    operation "cycle", operation "changed"]

/-! ### Parts -/

/-- The items for which an expression holds when they have their names. -/
def keptItems (scope : Scope) (target : Target) (keep : Expr) :
    List Value → Except RenderFault (List Value)
  | [] => .ok []
  | v :: rest => do
    let kept ← (← eval (← bindTarget scope target v) keep).truthy
    let more ← keptItems scope target keep rest
    return if kept then v :: more else more

mutual

/-- The text of a part, and the scope behind it. -/
def renderSegment : Scope → Segment → Except RenderFault (String × Scope)
  | scope, .text s => .ok (s, scope)
  | scope, .value e => do return (← (← eval scope e).display, scope)
  | scope, .assign t e => do return ("", ← bindTarget scope t (← eval scope e))
  | scope, .branch test yes no => do
    if ← (← eval scope test).truthy then renderSegments scope yes else renderSegments scope no
  | scope, .repeated t range keep body otherwise => do
    let items ← keptItems scope t keep (← (← eval scope range).items)
    if items.isEmpty then return ((← renderSegments scope otherwise).1, scope)
    let texts ← items.zipIdx.mapM fun (v, i) => do
      let inner ← bindTarget (scope.put "loop" (loopValue items i)) t v
      return (← renderSegments inner body).1
    return (Text.join "" texts, scope)

/-- The text of parts one after another, and the scope behind them. -/
def renderSegments : Scope → List Segment → Except RenderFault (String × Scope)
  | scope, [] => .ok ("", scope)
  | scope, p :: rest => do
    let (s, inner) ← renderSegment scope p
    let (t, last) ← renderSegments inner rest
    return (s ++ t, last)

end

/-- The text of a template. -/
def render (scope : Scope) (template : Template) : Except RenderFault String := do
  return (← renderSegments scope template).1

/-- The text of parts in a row is the texts in a row. -/
theorem renderSegments_append (scope : Scope) (ps qs : List Segment) :
    renderSegments scope (ps ++ qs) = (do
      let (s, inner) ← renderSegments scope ps
      let (t, last) ← renderSegments inner qs
      return (s ++ t, last)) := by
  induction ps generalizing scope with
  | nil =>
    simp only [List.nil_append, renderSegments, Bind.bind, Except.bind]
    cases renderSegments scope qs <;> simp [pure, Except.pure]
  | cons p ps ih =>
    simp only [List.cons_append, renderSegments, ih, Bind.bind, Except.bind, pure, Except.pure]
    cases renderSegment scope p with
    | error f => rfl
    | ok r =>
      cases hr : renderSegments r.2 ps with
      | error f => simp only [hr]
      | ok u =>
        cases hu : renderSegments u.2 qs with
        | error f => simp only [hr, hu]
        | ok w => simp only [hr, hu, String.append_assoc]

end DartScaffold.Template
