/-
**Values as text.**

Values appear in messages and in generated code as text.  A text is shown as it is, or between
quotes when it stands inside a list or an object; truth values and the null value have names, and
lists and objects are written with brackets and commas.

Main definitions:

* `Datum.quoted` — a value as it is shown inside another one;
* `Datum.display` — a value on its own;
* `Datum.sorted?` — values in order, if they can be ordered.

Main results:

* `Datum.display_text` — a text is displayed as itself.
-/

import DartScaffold.Datum.Basic
import DartScaffold.Number.Shortest
import DartScaffold.Text.Quoted
import DartScaffold.Text.Split

set_option relaxedAutoImplicit false
set_option autoImplicit false

namespace DartScaffold.Datum

/-! ### The text of a value -/

mutual

/-- A value as it is shown inside another one. -/
def quoted : Datum → String
  | .null => "None"
  | .bool b => if b then "True" else "False"
  | .int i => toString i
  | .double d => d.text
  | .text s => Text.quoted s
  | .list items => "[" ++ Text.join ", " (quotedItems items) ++ "]"
  | .object members => "\x7b" ++ Text.join ", " (quotedMembers members) ++ "\x7d"

/-- The items of a list as they are shown. -/
def quotedItems : List Datum → List String
  | [] => []
  | d :: rest => quoted d :: quotedItems rest

/-- The members of an object as they are shown. -/
def quotedMembers : List (String × Datum) → List String
  | [] => []
  | (k, d) :: rest => (Text.quoted k ++ ": " ++ quoted d) :: quotedMembers rest

end

/-- A value on its own: a text as it is, any other value as inside a list. -/
def display : Datum → String
  | .text s => s
  | d => d.quoted

@[simp] theorem display_text (s : String) : (Datum.text s).display = s := rfl

/-! ### Order -/

mutual

/-- The order of two values: numbers by what they are worth, texts by code points, and lists by the
first items that differ. -/
def compare? : Datum → Datum → Option Ordering
  | .text s, .text t => some (compare s t)
  | .list xs, .list ys => compareItems? xs ys
  | a, b =>
    match a.number?, b.number? with
    | some x, some y => compareNumbers? x y
    | _, _ => none

/-- The order of two lists: that of the first items that differ, and else a list comes before one
that is longer. -/
def compareItems? : List Datum → List Datum → Option Ordering
  | [], [] => some .eq
  | [], _ :: _ => some .lt
  | _ :: _, [] => some .gt
  | x :: xs, y :: ys => if x.same y then compareItems? xs ys else compare? x y

end

/-- Values in order; none if two of them have no order.  A number that is not one has no order with
any other, so a list with one is refused here.  The program does sort such a list, into an order
that depends on which comparisons are made; that is left out. -/
def sorted? (items : List Datum) : Option (List Datum) :=
  if items.all fun a => items.all fun b => (compare? a b).isSome then
    some (items.mergeSort fun a b => compare? a b != some .gt)
  else if items.length ≤ 1 then some items
  else none

/-- Texts in the order of their code points. -/
def sortedTexts (items : List String) : List String := items.mergeSort fun a b => decide (a ≤ b)

end DartScaffold.Datum
