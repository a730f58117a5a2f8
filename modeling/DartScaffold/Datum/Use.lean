/-
**Using values of a document.**

A document is looked at value by value: its lists are gone through, its members taken by name, its
texts taken apart.  Each such use asks for a kind of value; a value of another kind is refused with
the misuse it would have been.  Going through a text gives its characters, going through an object
the names of its members.

Main definitions:

* `Datum.textFor` — a text, for an operation on texts;
* `Datum.items`, `Datum.elements` — the items of a value, in order or as a set;
* `Datum.ordered` — values in order;
* `Datum.holds` — whether a value is in another one;
* `Datum.member`, `Datum.memberFor`, `Datum.partAt` — a member of an object, and an item of a list
  by its number;
* `Datum.numeral`, `Datum.wholeNumber` — a text, and any value, read as a whole number.

Main results:

* `Datum.textFor_eq_ok_iff` — only a text is taken for a text.
-/

import DartScaffold.Fault
import DartScaffold.Text.Digit

set_option relaxedAutoImplicit false
set_option autoImplicit false

namespace DartScaffold.Datum

/-! ### Texts -/

/-- The text that an operation on texts is used on. -/
def textFor (operation : String) : Datum → Except Misuse String
  | .text s => .ok s
  | d => .error (.lacksOperation d.kindName operation)

/-- Only a text is taken for a text. -/
theorem textFor_eq_ok_iff (operation s : String) (d : Datum) :
    d.textFor operation = .ok s ↔ d = .text s := by
  cases d <;> simp [textFor]

/-! ### Items -/

/-- The items of a value in order. -/
def items : Datum → Except Misuse (List Datum)
  | .list ds => .ok ds
  | .text s => .ok (s.toList.map fun c => .text (String.singleton c))
  | .object members => .ok (members.map fun m => .text m.1)
  | d => .error (.notIterable d.kindName)

/-- Values as the members of a set, each once. -/
def asSet (ds : List Datum) : Except Misuse (List Datum) :=
  match ds.find? fun d => !d.hashable with
  | some d => .error (.unhashable d.kindName)
  | none => .ok (distinct ds)

/-- The items of a value as a set. -/
def elements (d : Datum) : Except Misuse (List Datum) := do asSet (← d.items)

/-- The items of a value as a set; a value that counts as nothing has none. -/
def elementsOrNone (d : Datum) : Except Misuse (List Datum) :=
  if d.truthy then d.elements else .ok []

/-- Values in order.  When two have none, the first neighbours without order are to blame. -/
def ordered (ds : List Datum) : Except Misuse (List Datum) :=
  match sorted? ds with
  | some sorted => .ok sorted
  | none =>
    match (ds.zip ds.tail).find? fun (a, b) => (compare? b a).isNone with
    | some (a, b) => .error (.unordered b.kindName a.kindName)
    | none =>
      .error (.unordered ((ds.getLast?.map kindName).getD "") ((ds.head?.map kindName).getD ""))

/-! ### Members -/

/-- Whether a value is an item of a list, the name of a member or a part of a text. -/
def holds (key : Datum) : Datum → Except Misuse Bool
  | .list ds => .ok (key.isIn ds)
  | .object members =>
    if key.hashable then .ok (members.any fun m => key.same (.text m.1))
    else .error (.unhashable key.kindName)
  | .text s =>
    match key with
    | .text part => .ok (Text.contains part s)
    | d => .error (.notSubtext d.kindName)
  | d => .error (.notContainer d.kindName)

/-- The member of an object with a name. -/
def member (key : String) : Datum → Except Misuse Datum
  | .object members =>
    match members.lookup key with
    | some d => .ok d
    | none => .error (.missingMember key)
  | .list _ => .error (.namedIndex "list")
  | .text _ => .error (.namedIndex "str")
  | d => .error (.notIndexed d.kindName)

/-- The number of an item of a list, counted from the end if it is negative. -/
def itemAt (ds : List Datum) (i : Int) : Except Misuse Datum :=
  let place := if i < 0 then i + ds.length else i
  match (if place < 0 then none else ds[place.toNat]?) with
  | some d => .ok d
  | none => .error (.noItem i)

/-- The part of a value at a place: the member of a name, or the item of a number. -/
def partAt (key : Datum) (d : Datum) : Except Misuse Datum :=
  match key, d with
  | .text s, d => d.member s
  | .int i, .list ds => itemAt ds i
  | .bool b, .list ds => itemAt ds b.toNat
  | key, .list _ =>
    .error (.unfit ("list indices must be integers or slices, not " ++ key.kindName))
  | key, _ => .error (.missingMember key.display)

/-- The members of an object, for an operation on objects. -/
def membersFor (operation : String) : Datum → Except Misuse (List (String × Datum))
  | .object members => .ok members
  | d => .error (.lacksOperation d.kindName operation)

/-- The member of an object with a name, or a value that stands for a missing one. -/
def memberFor (key : String) (d : Datum) (missing : Datum) : Except Misuse Datum := do
  return ((← d.membersFor "get").lookup key).getD missing

/-! ### Whole numbers -/

/-- A blank around a numeral.  The information separators are none. -/
def isAround (c : Char) : Bool := Text.isBlank c && !(0x1c ≤ c.toNat && c.toNat ≤ 0x1f)

/-- The digits of a numeral; single low lines may stand between them. -/
def numeralDigits? : (afterDigit : Bool) → List Char → Option (List Nat)
  | afterDigit, [] => if afterDigit then some [] else none
  | afterDigit, '_' :: rest => if afterDigit then numeralDigits? false rest else none
  | _, c :: rest => do
    let n ← Text.digitValue? c
    return n :: (← numeralDigits? true rest)

/-- The whole number that a text writes, with blanks and a sign around the digits.  Too many digits
are found before anything that follows them. -/
def numeral (s : String) : Except Misuse Int :=
  let cs := Text.trim isAround s.toList
  let (negative, unsigned) :=
    match cs with
    | '-' :: rest => (true, rest)
    | '+' :: rest => (false, rest)
    | _ => (false, cs)
  let (written, rest) := unsigned.span fun c => c == '_' || (Text.digitValue? c).isSome
  match numeralDigits? false written with
  | none => .error (.notNumeral s)
  | some ns =>
    if maxDigits < ns.length then .error (.hugeNumeral ns.length)
    else if rest.isEmpty then
      let n : Nat := ns.foldl (fun n d => n * 10 + d) 0
      .ok (if negative then -(n : Int) else n)
    else .error (.notNumeral s)

/-- A value read as a whole number: what is behind a point is dropped. -/
def wholeNumber : Datum → Except Misuse Int
  | .bool b => .ok b.toNat
  | .int i => .ok i
  | .double d =>
    match d.truncate? with
    | some i => .ok i
    | none => .error (.notFinite (d != .nan))
  | .text s => numeral s
  | d => .error (.notNumber d.kindName)

end DartScaffold.Datum
