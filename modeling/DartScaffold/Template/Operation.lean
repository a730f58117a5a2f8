/-
**Operations and questions.**

In a template, numbers can be reckoned with and texts and lists put one after another; two values
can be compared, and a value looked for in another one.  A test says of what kind a value is, and
may be asked of a value that is missing.

Main definitions:

* `Template.Value.operate` — an operation on two values;
* `Template.Value.signed` — a number with a sign;
* `Template.Value.relate` — a question about two values;
* `Template.tests` — the tests by name.
-/

import DartScaffold.Datum.Display
import DartScaffold.Template.Basic
import DartScaffold.Template.Value

set_option relaxedAutoImplicit false
set_option autoImplicit false

namespace DartScaffold.Template

namespace Value

/-- Why a value cannot be used at all, if it cannot. -/
def missing? : Value → Option RenderFault
  | .undefined reason | .nothing reason => some (.template reason)
  | _ => none

/-- The kinds of two values do not fit an operation. -/
def unfit {α : Type} (v w : Value) : Except RenderFault α :=
  .error (.misuse (.unfit ("unsupported operand types: '" ++ v.kindName ++ "' and '" ++
    w.kindName ++ "'")))

/-! ### Reckoning -/

/-- An operation on whole numbers; there is no quotient by zero, and no power below zero. -/
def reckon (how : Operation) (i j : Int) : Option Datum :=
  match how with
  | .plus => some (.int (i + j))
  | .minus => some (.int (i - j))
  | .times => some (.int (i * j))
  | .divided =>
    if j = 0 then none
    else some (.double (.ofRatio (decide (i < 0) != decide (j < 0)) i.natAbs j.natAbs))
  | .floored => if j = 0 then none else some (.int (i.fdiv j))
  | .remainder => if j = 0 then none else some (.int (i.fmod j))
  | .power => if j < 0 then none else some (.int (Nat.repeat (· * i) j.toNat 1))

/-- A finite number as a fraction: above the line a whole number, below it not zero. -/
def fraction? : Int ⊕ Double → Option (Int × Nat)
  | .inl i => some (i, 1)
  | .inr d => d.ratio?.map fun (negative, num, den) =>
    (if negative then -(num : Int) else num, den)

/-- An operation on finite numbers, rounded once. -/
def reckonRounded (how : Operation) (x y : Int ⊕ Double) : Option Datum := do
  let (a, b) ← fraction? x
  let (c, d) ← fraction? y
  let rounded (num : Int) (den : Nat) : Datum :=
    .double (.ofRatio (decide (num < 0)) num.natAbs den)
  match how with
  | .plus => return rounded (a * d + c * b) (b * d)
  | .minus => return rounded (a * d - c * b) (b * d)
  | .times => return rounded (a * c) (b * d)
  | .divided =>
    if c = 0 then none
    else return rounded (if c < 0 then -(a * d) else a * d) (b * c.natAbs)
  | _ => none

/-- The items one after another, a number of times. -/
def repeated {α : Type} (items : List α) (count : Int) : List α :=
  (List.replicate count.toNat items).flatten

/-- An operation on two values. -/
def operate (how : Operation) (v w : Value) : Except RenderFault Value :=
  match v.missing?.or w.missing? with
  | some fault => .error fault
  | none =>
    match v, w, how with
    | .datum (.text s), .datum (.text t), .plus => .ok (.text (s ++ t))
    | .datum (.text s), .datum (.int i), .times | .datum (.int i), .datum (.text s), .times =>
      .ok (.text (String.ofList (repeated s.toList i)))
    | .datum (.list xs), .datum (.list ys), .plus => .ok (.datum (.list (xs ++ ys)))
    | .datum (.list xs), .datum (.int i), .times | .datum (.int i), .datum (.list xs), .times =>
      .ok (.datum (.list (repeated xs i)))
    | .list xs, .datum (.int i), .times | .datum (.int i), .list xs, .times =>
      .ok (.list (repeated xs i))
    | .list xs, .list ys, .plus => .ok (.list (xs ++ ys))
    | .list xs, .datum (.list ys), .plus => .ok (.list (xs ++ ys.map .datum))
    | .datum (.list xs), .list ys, .plus => .ok (.list (xs.map .datum ++ ys))
    | .datum d, .datum e, how =>
      match d.number?, e.number? with
      | some (.inl i), some (.inl j) => ((reckon how i j).map (.ok ∘ .datum)).getD (unfit v w)
      | some x, some y => ((reckonRounded how x y).map (.ok ∘ .datum)).getD (unfit v w)
      | _, _ => unfit v w
    | v, w, _ => unfit v w

/-- A number with a sign. -/
def signed (negative : Bool) (v : Value) : Except RenderFault Value :=
  match v.missing?, v with
  | some fault, _ => .error fault
  | none, .datum (.double (.finite s m q)) => .ok (.datum (.double (.finite (s != negative) m q)))
  | none, .datum (.double (.infinite s)) => .ok (.datum (.double (.infinite (s != negative))))
  | none, .datum (.double .nan) => .ok (.datum (.double .nan))
  | none, .datum d =>
    match d.number? with
    | some (.inl i) => .ok (.datum (.int (if negative then -i else i)))
    | _ => unfit v v
  | none, v => unfit v v

/-! ### Questions -/

/-- The order of two values that have one. -/
def order (v w : Value) : Except RenderFault Ordering :=
  match v.missing?.or w.missing? with
  | some fault => .error fault
  | none =>
    match v.datum?, w.datum? with
    | some d, some e => ((d.compare? e).map .ok).getD (.error (.misuse (.unordered v.kindName
        w.kindName)))
    | _, _ => .error (.misuse (.unordered v.kindName w.kindName))

/-- Whether a value is the same as one of several. -/
def isOneOf (v : Value) : List Value → Except RenderFault Bool
  | [] => .ok false
  | w :: rest => do
    if ← w.same v then return true else isOneOf v rest

/-- Whether a value is an item or the name of a member of another one, or a part of a text. -/
def isWithin (v holder : Value) : Except RenderFault Bool :=
  match holder, v with
  | .undefined reason, _ => .error (.template reason)
  | .nothing _, _ => .ok false
  | .list items, v | .tuple items, v => isOneOf v items
  | .datum (.list ds), v => isOneOf v (ds.map .datum)
  | .datum d, v =>
    match v.datum? with
    | some key => (Datum.holds key d : Except Misuse Bool)
    | none => .error (.misuse (.unhashable v.kindName))
  | holder, _ => .error (.misuse (.notContainer holder.kindName))

/-- A question about two values. -/
def relate (how : Relation) (v w : Value) : Except RenderFault Bool := do
  match how with
  | .equal => v.same w
  | .unequal => return !(← v.same w)
  | .less => return (← order v w) == .lt
  | .atMost => return (← order v w) != .gt
  | .greater => return (← order v w) == .gt
  | .atLeast => return (← order v w) != .lt
  | .within => isWithin v w
  | .outside => return !(← isWithin v w)

end Value

/-! ### Tests -/

/-- A test: what it says of a value and further arguments. -/
abbrev Test := Value → Arguments → Except RenderFault Bool

/-- A test that takes no arguments. -/
def plainTest (holds : Value → Except RenderFault Bool) : Test := fun v arguments =>
  if arguments.isEmpty then holds v else .error (.misuse (.unfit "too many arguments"))

/-- A test of the kind of a value. -/
def kindTest (kinds : List String) : Test := plainTest fun v => .ok (kinds.contains v.kindName)

/-- A test of whether a whole number divided by two leaves a remainder. -/
def parityTest (remainder : Int) : Test := plainTest fun v => do
  (← v.operate .remainder (.datum (.int 2))).same (.datum (.int remainder))

/-- Whether a value is missing. -/
def Value.isMissing : Value → Bool
  | .undefined _ | .nothing _ => true
  | _ => false

/-- Whether a value can be gone through. -/
def isIterable (v : Value) : Except RenderFault Bool :=
  match v.items with
  | .ok _ => .ok true
  | .error (.template reason) => .error (.template reason)
  | .error (.misuse _) => .ok false

/-- The tests by name. -/
def tests : List (String × Test) := [
  ("defined", plainTest fun v => .ok !v.isMissing),
  ("undefined", plainTest fun v => .ok v.isMissing),
  ("none", kindTest ["NoneType"]), ("boolean", kindTest ["bool"]),
  ("true", plainTest fun
    | .datum (.bool b) => .ok b
    | _ => .ok false),
  ("false", plainTest fun
    | .datum (.bool b) => .ok !b
    | _ => .ok false),
  ("integer", kindTest ["int"]), ("float", kindTest ["float"]),
  ("number", kindTest ["int", "float", "bool"]), ("string", kindTest ["str"]),
  ("mapping", kindTest ["dict"]), ("sequence", kindTest ["str", "list", "tuple", "dict"]),
  ("iterable", plainTest isIterable), ("odd", parityTest 1), ("even", parityTest 0)]

/-- A test asked of a value. -/
def applyTest (name : String) (v : Value) (arguments : Arguments) : Except RenderFault Bool :=
  match tests.lookup name with
  | none => .error (.template ("No test named " ++ Text.quoted name ++ " found."))
  | some t => t v arguments

end DartScaffold.Template
