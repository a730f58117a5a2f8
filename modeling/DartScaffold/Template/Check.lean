/-
**What a template cannot say.**

A template of the right form may still say something that cannot be: it may use a filter or test
that there is none of, or name an item `loop`, a name that stands for the repetition itself.  An
unknown filter or test in a part that may be left out, or in a choice between two values, counts
only when it is used.

Main definitions:

* `Template.Expr.unknown?` — the first filter or test in an expression that there is none of;
* `Template.senseless?` — the first thing in a template that cannot be.
-/

import DartScaffold.Template.Filter
import DartScaffold.Template.Operation

set_option relaxedAutoImplicit false
set_option autoImplicit false

namespace DartScaffold.Template

/-! ### Expressions -/

/-- The fault of a name that is not among those known. -/
def unknownName? (kind : String) (known : List String) (name : String) : Option String :=
  if known.contains name then none
  else some ("No " ++ kind ++ " named " ++ Text.quoted name ++ ".")

mutual

/-- The first filter or test in an expression that there is none of. -/
def Expr.unknown? : Expr → Option String
  | .literal _ | .nothing _ | .name _ | .choose .. => none
  | .member e _ | .sign _ e | .negate e => e.unknown?
  | .element e k => e.unknown?.or k.unknown?
  | .call f given => f.unknown?.or (unknownGiven? given)
  | .filter n e given =>
    ((unknownName? "filter" (filters.map Prod.fst) n).or e.unknown?).or (unknownGiven? given)
  | .test n e given =>
    ((unknownName? "test" (tests.map Prod.fst) n).or e.unknown?).or (unknownGiven? given)
  | .operate _ a b | .compare _ a b | .join a b | .both a b | .either a b =>
    a.unknown?.or b.unknown?
  | .list items | .tuple items => unknownItem? items
  | .object members => unknownMember? members

/-- The first in what is given to a function, filter or test. -/
def unknownGiven? : List (Option String × Expr) → Option String
  | [] => none
  | (_, e) :: rest => e.unknown?.or (unknownGiven? rest)

/-- The first in the items of a list. -/
def unknownItem? : List Expr → Option String
  | [] => none
  | e :: rest => e.unknown?.or (unknownItem? rest)

/-- The first in the members of an object. -/
def unknownMember? : List (Expr × Expr) → Option String
  | [] => none
  | (k, e) :: rest => (k.unknown?.or e.unknown?).or (unknownMember? rest)

end

/-! ### Parts -/

mutual

/-- Whether an item inside a part, or the part's own, is named `loop`. -/
def Segment.namesLoop : Segment → Bool
  | .text _ | .value _ => false
  | .assign t _ => t.names.contains "loop"
  | .branch _ yes no => namesLoopIn yes || namesLoopIn no
  | .repeated t _ _ body otherwise =>
    t.names.contains "loop" || namesLoopIn body || namesLoopIn otherwise

/-- Whether an item inside parts is named `loop`. -/
def namesLoopIn : List Segment → Bool
  | [] => false
  | p :: rest => p.namesLoop || namesLoopIn rest

end

/-- The fault of naming an item like the repetition itself. -/
def loopNamed : String := "Can't assign to special loop variable in for-loop target"

mutual

/-- The first thing in a part that cannot be; one that may be left out is not asked for unknown
filters and tests, but what is repeated inside it is. -/
def Segment.senseless? (optional : Bool) : Segment → Option String
  | .text _ => none
  | .value e | .assign _ e => if optional then none else e.unknown?
  | .branch _ yes no => (senselessIn? true yes).or (senselessIn? true no)
  | .repeated t range keep body otherwise =>
    let ownLoop : Option String :=
      if t.names.contains "loop" || namesLoopIn body || namesLoopIn otherwise then some loopNamed
      else none
    (((keep.unknown?.or ownLoop).or (if optional then none else range.unknown?)).or
      (senselessIn? false body)).or (senselessIn? false otherwise)

/-- The first thing in parts that cannot be. -/
def senselessIn? (optional : Bool) : List Segment → Option String
  | [] => none
  | p :: rest => (p.senseless? optional).or (senselessIn? optional rest)

end

/-- The first thing in a template that cannot be. -/
def senseless? (t : Template) : Option String := senselessIn? false t

end DartScaffold.Template
