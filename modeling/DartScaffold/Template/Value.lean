/-
**Values in templates.**

A template is filled with values: those of documents, lists of values, names from a fixed family,
and records with named members, some of which are functions of a text.  Some values are known to
every template, and some are operations that belong to another value.  A name that has no value
is itself a value, and any use of it is a fault; a choice without its second part is shown as
nothing, and most other uses of it are faults.

Main definitions:

* `Template.Builtin` — what is known to every template;
* `Template.Value` — a value;
* `Template.RenderFault` — why a template cannot be filled;
* `Template.Value.display`, `Template.Value.truthy`, `Template.Value.items`,
  `Template.Value.member`, `Template.Value.element`, `Template.Value.call` — the uses of a value.

Main results:

* `Template.Value.display_text` — a text is displayed as itself.
-/

import DartScaffold.Datum.Use
import DartScaffold.Fault

set_option relaxedAutoImplicit false
set_option autoImplicit false

namespace DartScaffold.Template

/-- Why a template cannot be filled. -/
inductive RenderFault where
  /-- A fault of the template, by its wording. -/
  | template (reason : String)
  /-- A value of the wrong kind was used. -/
  | misuse (fault : Misuse)
deriving Repr

/-- A misuse is a fault of the filling. -/
instance : MonadLift (Except Misuse) (Except RenderFault) := ⟨fun x => x.mapError .misuse⟩

/-- What is known to every template. -/
inductive Builtin where
  | range
  | object
  | filler
  | cycler
  | joiner
  | names
  /-- An operation that belongs to a value, by the kinds of both and its name. -/
  | operation (kind owner name : String)
deriving DecidableEq, Repr, Inhabited

/-- What is known to every template, by name. -/
def builtins : List (String × Builtin) := [
  ("range", .range), ("dict", .object), ("lipsum", .filler), ("cycler", .cycler),
  ("joiner", .joiner), ("namespace", .names)]

/-- The name of its kind. -/
def Builtin.kindName : Builtin → String
  | .filler => "function"
  | .operation kind _ _ => kind
  | _ => "type"

/-- How it is shown. -/
def Builtin.display : Builtin → String
  | .range => "<class 'range'>"
  | .object => "<class 'dict'>"
  | .filler => "<function generate_lorem_ipsum>"
  | .cycler => "<class 'jinja2.utils.Cycler'>"
  | .joiner => "<class 'jinja2.utils.Joiner'>"
  | .names => "<class 'jinja2.utils.Namespace'>"
  | .operation _ owner name => "<built-in method " ++ name ++ " of " ++ owner ++ " object>"

/-- A value that fills a gap. -/
inductive Value where
  | datum (d : Datum)
  | list (items : List Value)
  | tuple (items : List Value)
  /-- A name from a fixed family, with the value that it stands for. -/
  | symbol (family name value : String)
  /-- Named members: first those that make up the record, then those that follow from them.  In a
  gap it may be shown in a way of its own. -/
  | record (kind : String) (shown : Option String) (fields derived : List (String × Value))
  | function (apply : String → String)
  | builtin (b : Builtin)
  /-- No value; the reason words the fault of using it. -/
  | undefined (reason : String)
  /-- No value, but it is shown as nothing; the reason words the fault of any other use. -/
  | nothing (reason : String)
deriving Inhabited

/-- Values, some of them given by name. -/
abbrev Arguments := List (Option String × Value)

namespace Value

/-- A text as a value. -/
def text (s : String) : Value := .datum (.text s)

/-- A truth value as a value. -/
def flag (b : Bool) : Value := .datum (.bool b)

/-- Texts as a value. -/
def texts (items : List String) : Value := .list (items.map .text)

/-- A text that may be missing. -/
def optional (s : Option String) : Value := .datum ((s.map .text).getD .null)

/-- The last part of a name with dots. -/
def shortKind (kind : String) : String := ((Text.cutLast? "." kind).map Prod.snd).getD kind

/-- The name of a value's kind. -/
def kindName : Value → String
  | .datum d => d.kindName
  | .list _ => "list"
  | .tuple _ => "tuple"
  | .symbol family _ _ => shortKind family
  | .record kind _ _ _ => shortKind kind
  | .function _ => "method"
  | .builtin b => b.kindName
  | .undefined _ => "StrictUndefined"
  | .nothing _ => "Undefined"

/-! ### Showing -/

mutual

/-- A value as it is shown inside another one. -/
def quoted : Value → Except RenderFault String
  | .datum d => .ok d.quoted
  | .list items => do return "[" ++ Text.join ", " (← quotedItems items) ++ "]"
  | .tuple items => do
    match ← quotedItems items with
    | [s] => return "(" ++ s ++ ",)"
    | several => return "(" ++ Text.join ", " several ++ ")"
  | .symbol family name value =>
    .ok ("<" ++ shortKind family ++ "." ++ name ++ ": " ++ Text.quoted value ++ ">")
  | .record kind _ fields _ => do
    return shortKind kind ++ "(" ++ Text.join ", " (← quotedFields fields) ++ ")"
  | .function _ => .ok "<bound method>"
  | .builtin b => .ok b.display
  | .undefined reason => .error (.template reason)
  | .nothing _ => .ok "Undefined"

/-- The items of a list as they are shown. -/
def quotedItems : List Value → Except RenderFault (List String)
  | [] => .ok []
  | v :: rest => do
    let s ← quoted v
    return s :: (← quotedItems rest)

/-- The members of a record as they are shown. -/
def quotedFields : List (String × Value) → Except RenderFault (List String)
  | [] => .ok []
  | (name, v) :: rest => do
    let s ← quoted v
    return (name ++ "=" ++ s) :: (← quotedFields rest)

end

/-- A value as it is shown in a gap. -/
def display : Value → Except RenderFault String
  | .datum d => .ok d.display
  | .symbol family name _ => .ok (shortKind family ++ "." ++ name)
  | .record _ (some s) _ _ => .ok s
  | .nothing _ => .ok ""
  | v => v.quoted

@[simp] theorem display_text (s : String) : (Value.text s).display = .ok s := rfl

/-! ### Other uses -/

/-- Whether a value counts as something. -/
def truthy : Value → Except RenderFault Bool
  | .datum d => .ok d.truthy
  | .list items => .ok !items.isEmpty
  | .tuple items => .ok !items.isEmpty
  | .undefined reason => .error (.template reason)
  | .nothing _ => .ok false
  | _ => .ok true

@[simp] theorem truthy_text (s : String) : (Value.text s).truthy = .ok (s != "") := rfl

@[simp] theorem truthy_flag (b : Bool) : (Value.flag b).truthy = .ok b := rfl

/-- The items that a value is gone through by. -/
def items : Value → Except RenderFault (List Value)
  | .datum d => do return (← (d.items : Except Misuse _)).map .datum
  | .list items => .ok items
  | .tuple items => .ok items
  | .undefined reason => .error (.template reason)
  | .nothing _ => .ok []
  | v => .error (.misuse (.notIterable v.kindName))

/-! ### Members and elements -/

/-- How messages speak of a value whose member is missing. -/
def ownerName : Value → String
  | .datum .null => "None"
  | .datum d => d.kindName ++ " object"
  | .list _ => "list object"
  | .tuple _ => "tuple object"
  | .symbol family _ _ => family ++ " object"
  | .record kind _ _ _ => kind ++ " object"
  | .function _ => "method object"
  | .builtin b => b.kindName ++ " object"
  | .undefined reason => reason
  | .nothing reason => reason

/-- The operations that belong to the values of a kind. -/
def operationsOf : (kind : String) → List String
  | "dict" => ["clear", "copy", "fromkeys", "get", "items", "keys", "pop", "popitem",
    "setdefault", "update", "values"]
  | "list" => ["append", "clear", "copy", "count", "extend", "index", "insert", "pop", "remove",
    "reverse", "sort"]
  | "tuple" => ["count", "index"]
  | "str" => ["capitalize", "casefold", "center", "count", "encode", "endswith", "expandtabs",
    "find", "format", "format_map", "index", "isalnum", "isalpha", "isascii", "isdecimal",
    "isdigit", "isidentifier", "islower", "isnumeric", "isprintable", "isspace", "istitle",
    "isupper", "join", "ljust", "lower", "lstrip", "maketrans", "partition", "removeprefix",
    "removesuffix", "replace", "rfind", "rindex", "rjust", "rpartition", "rsplit", "rstrip",
    "split", "splitlines", "startswith", "strip", "swapcase", "title", "translate", "upper",
    "zfill"]
  | "int" | "bool" => ["as_integer_ratio", "bit_count", "bit_length", "conjugate", "from_bytes",
    "to_bytes"]
  | "float" => ["as_integer_ratio", "conjugate", "fromhex", "hex", "is_integer"]
  | _ => []

/-- A part of a number by name. -/
def numberPart? (name : String) : Datum → Option Datum
  | .double d =>
    match name with
    | "real" => some (.double d)
    | "imag" => some (.double (.finite false 0 0))
    | _ => none
  | d =>
    match d.number?, name with
    | some (.inl i), "real" | some (.inl i), "numerator" => some (.int i)
    | some (.inl _), "imag" => some (.int 0)
    | some (.inl _), "denominator" => some (.int 1)
    | _, _ => none

/-- What belongs to a value by name, apart from the members of an object: operations, parts of a
number, and the members of a record. -/
def own? (name : String) (v : Value) : Option Value :=
  if (operationsOf v.kindName).contains name then
    some (.builtin (.operation "builtin_function_or_method" v.kindName name))
  else
    match v with
    | .datum d => (numberPart? name d).map .datum
    | .symbol _ own value =>
      if name = "value" then some (.text value)
      else if name = "name" then some (.text own)
      else none
    | .record _ _ fields derived => (fields ++ derived).lookup name
    | _ => none

/-- The member of a value with a name; one that it does not have is undefined.  What belongs to
every object comes before its members. -/
def member (name : String) (v : Value) : Except RenderFault Value :=
  match v with
  | .undefined reason | .nothing reason => .error (.template reason)
  | v =>
    let held : Option Value :=
      match v with
      | .datum d => (d.member? name).map .datum
      | _ => none
    .ok (((v.own? name).or held).getD
      (.undefined (Text.quoted v.ownerName ++ " has no attribute " ++ Text.quoted name)))

/-- The item of a list with a number, counted from the end if it is negative. -/
def itemAt? (items : List Value) (i : Int) : Option Value :=
  let place := if i < 0 then i + items.length else i
  if place < 0 then none else items[place.toNat]?

/-- The element of a value at a place, if it has one: an item by number, or a member of an object
by name. -/
def element? (v : Value) : (key : Value) → Option Value
  | .datum key =>
    match v, key, key.number? with
    | .datum (.object members), .text s, _ => (members.lookup s).map .datum
    | .datum (.list ds), _, some (.inl i) => itemAt? (ds.map .datum) i
    | .datum (.text s), _, some (.inl i) =>
      itemAt? (s.toList.map fun c => .text (String.singleton c)) i
    | .list items, _, some (.inl i) | .tuple items, _, some (.inl i) => itemAt? items i
    | _, _, _ => none
  | _ => none

/-- The element of a value at a place; one that it does not have is undefined.  What is no element
may still belong to the value by name. -/
def element (v key : Value) : Except RenderFault Value := do
  match v with
  | .undefined reason | .nothing reason => throw (.template reason)
  | v =>
    match v.element? key, key with
    | some w, _ => return w
    | none, .datum (.text name) =>
      return (v.own? name).getD
        (.undefined (Text.quoted v.ownerName ++ " has no attribute " ++ Text.quoted name))
    | none, key => return .undefined (v.ownerName ++ " has no element " ++ (← key.quoted))

/-! ### Calls -/

/-- Whole numbers from one on up to another, in steps that are not zero. -/
def range (first last step : Int) : List Value :=
  let count := if 0 < step then (last - first + step - 1).fdiv step
    else (first - last - step - 1).fdiv (-step)
  (List.range count.toNat).map fun n : Nat => .datum (.int (first + step * n))

/-- The result of calling a value. -/
def call (arguments : Arguments) (v : Value) : Except RenderFault Value :=
  match v, arguments with
  | .function f, [(none, .datum (.text s))] => .ok (.text (f s))
  | .function _, _ => .error (.misuse (.unfit "a single text is expected"))
  | .builtin .range, [(none, .datum (.int n))] => .ok (.list (range 0 n 1))
  | .builtin .range, [(none, .datum (.int m)), (none, .datum (.int n))] =>
    .ok (.list (range m n 1))
  | .builtin .range,
    [(none, .datum (.int m)), (none, .datum (.int n)), (none, .datum (.int step))] =>
    if step = 0 then .error (.misuse (.notNumeral "0")) else .ok (.list (range m n step))
  | .undefined reason, _ | .nothing reason, _ => .error (.template reason)
  | v, _ => .error (.misuse (.unfit ("'" ++ v.kindName ++ "' object is not callable")))

/-! ### Equality -/

mutual

/-- A value as a value of a document, if it is one. -/
def datum? : Value → Option Datum
  | .datum d => some d
  | .list items => (itemData? items).map .list
  | _ => none

/-- Values as values of a document. -/
def itemData? : List Value → Option (List Datum)
  | [] => some []
  | v :: rest => do
    let d ← datum? v
    return d :: (← itemData? rest)

end

/-- Whether two values are the same. -/
def same (v w : Value) : Except RenderFault Bool :=
  match v, w with
  | .undefined reason, _ => .error (.template reason)
  | _, .undefined reason => .error (.template reason)
  | .nothing _, .nothing _ => .ok true
  | .symbol f n _, .symbol g m _ => .ok (f == g && n == m)
  | .tuple vs, .tuple ws =>
    match itemData? vs, itemData? ws with
    | some ds, some es => .ok (Datum.sameItems ds es)
    | _, _ => .ok false
  | v, w =>
    match v.datum?, w.datum? with
    | some d, some e => .ok (d.same e)
    | _, _ => .ok false

end Value

end DartScaffold.Template
