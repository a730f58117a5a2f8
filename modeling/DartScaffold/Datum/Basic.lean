/-
**The values of a document.**

A backend description, a configuration and the variables of a template are documents: nested
values of a few kinds, with the members of an object in a fixed order.  A document is read as it
is given, and each of its values is looked at only when it is used.  This module holds the type of
such values, their kinds, the notion of a value that counts as nothing, and the equality by which
they are told apart as members of a set: numbers are equal when their values are, whether they are
written as truth values, whole numbers or with a point.

Two limits on documents are kept, and both are limits of the reader: how many digits a whole number
has, and how deep lists and objects are nested.  They are default settings of the system that a
document is read on, which may be changed and differ between its versions.  The same limits can be
met where values are displayed, written or merged; there they are left out, and every value is
displayed, written and merged as if there were none.

Main definitions:

* `Datum` — a value of a document;
* `Datum.Limit` — what is too much of a document to be read;
* `Datum.kindName` — the name of its kind;
* `Datum.truthy` — whether it counts as something;
* `Datum.same` — equality by value;
* `Datum.distinct` — a list of values as a set, in the order of first occurrence.

Main results:

* `Datum.truthy_text` — a text counts as something exactly when it is not empty.
-/

import DartScaffold.Entries
import DartScaffold.Number.Double

set_option relaxedAutoImplicit false
set_option autoImplicit false

namespace DartScaffold

/-- A value of a document. -/
inductive Datum where
  | null
  | bool (b : Bool)
  | int (i : Int)
  | double (d : Double)
  | text (s : String)
  | list (items : List Datum)
  /-- The members of an object in order; no two have the same name. -/
  | object (members : List (String × Datum))
deriving Repr, Inhabited

namespace Datum

/-! ### Limits -/

/-- What is too much of a document to be read. -/
inductive Limit where
  /-- A whole number of this many digits. -/
  | digits (count : Nat)
  /-- A list within lists, or an object, that is nested too deep. -/
  | depth (isList : Bool)
deriving DecidableEq, Repr

/-- The most digits that a whole number is read with by default. -/
def maxDigits : Nat := 4300

/-- The greatest depth to which lists and objects are read.  By default there may be a thousand
calls within one another, and the reader takes one for each list or object.  How many are under way
when the reading begins depends on the caller; they are taken to be fifteen. -/
def maxDepth : Nat := 985

/-- The wording of what is too much. -/
def Limit.message : Limit → String
  | .digits count =>
    "Exceeds the limit (" ++ toString maxDigits ++
      " digits) for integer string conversion: value has " ++ toString count ++
      " digits; use sys.set_int_max_str_digits() to increase the limit"
  | .depth isList =>
    "maximum recursion depth exceeded while decoding a JSON " ++
      (if isList then "array" else "object") ++ " from a unicode string"

/-! ### Kinds -/

/-- The name of a value's kind, as messages give it. -/
def kindName : Datum → String
  | .null => "NoneType"
  | .bool _ => "bool"
  | .int _ => "int"
  | .double _ => "float"
  | .text _ => "str"
  | .list _ => "list"
  | .object _ => "dict"

/-- A value counts as something unless it is null, false, a zero or empty. -/
def truthy : Datum → Bool
  | .null => false
  | .bool b => b
  | .int i => i != 0
  | .double d => !d.isZero
  | .text s => s != ""
  | .list items => !items.isEmpty
  | .object members => !members.isEmpty

@[simp] theorem truthy_text (s : String) : (Datum.text s).truthy = (s != "") := rfl

/-- The value, or another one if it counts as nothing. -/
def orElse (d other : Datum) : Datum := if d.truthy then d else other

/-! ### Members -/

/-- The member of an object with a given name. -/
def member? (key : String) : Datum → Option Datum
  | .object members => members.lookup key
  | _ => none

/-! ### Equality by value -/

/-- A truth value or a number as a number. -/
def number? : Datum → Option (Int ⊕ Double)
  | .bool b => some (.inl b.toNat)
  | .int i => some (.inl i)
  | .double d => some (.inr d)
  | _ => none

/-- The order of two numbers, if they have one. -/
def compareNumbers? : Int ⊕ Double → Int ⊕ Double → Option Ordering
  | .inl i, .inl j => some (compare i j)
  | .inr d, .inr e => Double.compare? d e
  | .inl i, .inr e =>
    Double.compare? (if i < 0 then .finite true i.natAbs 0 else .finite false i.natAbs 0) e
  | .inr d, .inl j =>
    Double.compare? d (if j < 0 then .finite true j.natAbs 0 else .finite false j.natAbs 0)

mutual

/-- Equality by value: numbers by what they are worth, objects without regard to the order of
their members. -/
def same : Datum → Datum → Bool
  | .null, .null => true
  | .text s, .text t => s == t
  | .list xs, .list ys => sameItems xs ys
  | .object ms, .object ns => ms.length == ns.length && sameMembers ms ns
  | a, b =>
    match a.number?, b.number? with
    | some x, some y => compareNumbers? x y == some .eq
    | _, _ => false

/-- Equality by value of two lists, item by item. -/
def sameItems : List Datum → List Datum → Bool
  | [], [] => true
  | x :: xs, y :: ys => same x y && sameItems xs ys
  | _, _ => false

/-- Each member of the first list has an equal one in the second. -/
def sameMembers : List (String × Datum) → List (String × Datum) → Bool
  | [], _ => true
  | (k, x) :: ms, ns =>
    (match ns.lookup k with
    | some y => same x y
    | none => false) && sameMembers ms ns

end

/-- A value that can be a member of a set: no list and no object. -/
def hashable : Datum → Bool
  | .list _ => false
  | .object _ => false
  | _ => true

/-- The value is in the list, by value. -/
def isIn (d : Datum) (items : List Datum) : Bool := items.any (same · d)

/-- The values of a list, each once, in the order of first occurrence. -/
def distinct (items : List Datum) : List Datum :=
  items.foldl (fun found d => if d.isIn found then found else found ++ [d]) []

/-- Texts as a list. -/
def ofTexts (texts : List String) : Datum := .list (texts.map .text)

/-- A text that may be missing. -/
def ofText? : Option String → Datum
  | some s => .text s
  | none => .null

end Datum

end DartScaffold
