/-
**Templates.**

A template is a text with gaps: expressions whose values are shown, parts that are kept or left
out, parts that are repeated for each item of a list, and names given to values on the way.  This
module holds the form of templates; what they stand for is in `DartScaffold.Template.Render`.

Main definitions:

* `Template.Expr` — an expression;
* `Template.Target` — the names that items are given;
* `Template.Segment` — a part of a template;
* `Template` — the parts one after another;
* `Template.gap`, `Template.member`, `Template.choose` — short forms for writing templates down.
-/

import DartScaffold.Datum.Basic

set_option relaxedAutoImplicit false
set_option autoImplicit false

namespace DartScaffold.Template

/-! ### Expressions -/

/-- An operation on two values. -/
inductive Operation where
  | plus
  | minus
  | times
  | divided
  /-- The whole part of a quotient, downwards. -/
  | floored
  | remainder
  | power
deriving DecidableEq, Repr

/-- A question about two values. -/
inductive Relation where
  | equal
  | unequal
  | less
  | atMost
  | greater
  | atLeast
  | within
  | outside
deriving DecidableEq, Repr

/-- An expression in a gap.  What a function, a filter or a test is given may be given by name. -/
inductive Expr where
  | literal (d : Datum)
  /-- No value, which is shown as nothing; the reason words the fault of any other use. -/
  | nothing (reason : String)
  | name (n : String)
  | member (of : Expr) (name : String)
  | element (of key : Expr)
  | call (function : Expr) (arguments : List (Option String × Expr))
  | filter (name : String) (of : Expr) (arguments : List (Option String × Expr))
  | test (name : String) (of : Expr) (arguments : List (Option String × Expr))
  | sign (negative : Bool) (of : Expr)
  | operate (how : Operation) (left right : Expr)
  | compare (how : Relation) (left right : Expr)
  /-- Two texts one after the other. -/
  | join (left right : Expr)
  | negate (of : Expr)
  | both (left right : Expr)
  | either (left right : Expr)
  | choose (test yes no : Expr)
  | list (items : List Expr)
  | tuple (items : List Expr)
  | object (members : List (Expr × Expr))
deriving Repr, Inhabited

/-- The expression that asks whether two values are the same. -/
def Expr.equal (left right : Expr) : Expr := .compare .equal left right

/-- A function of one text, called. -/
def Expr.apply (function : Expr) (s : String) : Expr :=
  .call function [(none, .literal (.text s))]

/-! ### Parts -/

/-- What an item is named by: a name, or a name for each of its own items. -/
inductive Target where
  | name (n : String)
  | tuple (parts : List Target)
deriving Repr, Inhabited

mutual

/-- The names that are given. -/
def Target.names : Target → List String
  | .name n => [n]
  | .tuple parts => Target.namesOf parts

/-- The names that are given by several. -/
def Target.namesOf : List Target → List String
  | [] => []
  | t :: rest => t.names ++ Target.namesOf rest

end

/-- A part of a template. -/
inductive Segment where
  | text (s : String)
  | value (e : Expr)
  | assign (target : Target) (e : Expr)
  | branch (test : Expr) (yes no : List Segment)
  /-- The body for each item that is kept, or something else if there is none. -/
  | repeated (target : Target) (range keep : Expr) (body otherwise : List Segment)
deriving Repr, Inhabited

/-! ### Short forms -/

/-- An expression that always holds. -/
def always : Expr := .literal (.bool true)

/-- A text as an expression. -/
def quote (s : String) : Expr := .literal (.text s)

/-- The member `field` of the value named `owner`. -/
def member (owner field : String) : Expr := .member (.name owner) field

/-- A gap for the member `field` of the value named `owner`. -/
def gap (owner field : String) : Segment := .value (member owner field)

/-- A part kept if a value counts as something. -/
def when (test : Expr) (yes : List Segment) : Segment := .branch test yes []

/-- A name given to a value. -/
def define (name : String) (e : Expr) : Segment := .assign (.name name) e

/-- A part repeated for each item that is kept. -/
def each (name : String) (range keep : Expr) (body : List Segment) : Segment :=
  .repeated (.name name) range keep body []

/-- The first alternative whose test holds, or else the last one. -/
def choose : List (Expr × List Segment) → List Segment → List Segment
  | [], last => last
  | (test, body) :: rest, last => [.branch test body (choose rest last)]

end DartScaffold.Template

namespace DartScaffold

/-- A template: its parts one after another. -/
abbrev Template := List Template.Segment

end DartScaffold
