/-
**Names that may be used.**

A generated identifier must be no reserved word of the language it is generated for, and no name
that the surrounding code already uses.  A sanitizer writes a name in one of the ways of writing,
puts an `n` before a leading digit, calls an empty name `field`, and adds a suffix to a name that
is taken by the language.

Names are looked up in a memo first, under a key that is made of the name, the way of writing and
the suffix with low lines between them.  Distinct requests can have the same key when a suffix
holds a low line; a memo then answers the later of them with the name found for the earlier.

Main definitions:

* `Naming.Sanitizer`, `Naming.Sanitizer.fresh` — the rule;
* `Naming.Request`, `Naming.Request.key` — what is asked for, and its key in the memo;
* `Naming.Names`, `Naming.Names.name`, `Naming.Names.remember` — a sanitizer with its memo.

Main results:

* `Naming.Names.name_of_memo_nil` — with an empty memo the rule answers.
-/

import DartScaffold.Naming.Words

set_option relaxedAutoImplicit false
set_option autoImplicit false

namespace DartScaffold.Naming

/-! ### The rule -/

/-- The names that a language takes. -/
structure Sanitizer where
  /-- The reserved words. -/
  reserved : List String
  /-- Names that are in use though not reserved. -/
  builtin : List String
deriving DecidableEq, Repr, Inhabited

/-- A converted name made an identifier: not empty and not beginning with a digit. -/
def asIdentifier (converted : String) : String :=
  match converted.toList with
  | [] => "field"
  | c :: _ => if c.isDigit then "n" ++ converted else converted

/-- The name is taken by the language. -/
def Sanitizer.isTaken (s : Sanitizer) (name : String) : Bool :=
  s.reserved.contains name || s.builtin.contains name

/-- A name that may be used, made from a source name. -/
def Sanitizer.fresh (s : Sanitizer) (c : Case) (suffix source : String) : String :=
  let name := asIdentifier (c.form source)
  if s.isTaken name then name ++ suffix else name

/-! ### The memo -/

/-- A name that is asked for. -/
structure Request where
  /-- The name as it is displayed. -/
  shown : String
  /-- The name that the words are taken from. -/
  source : String
  /-- The way of writing. -/
  form : Case
  /-- The suffix for a name that is taken. -/
  suffix : String
deriving DecidableEq, Repr

/-- The key of a request in a memo. -/
def Request.key (r : Request) : String := r.shown ++ "_" ++ r.form.name ++ "_" ++ r.suffix

/-- The request for a value as a name. -/
def Request.ofDatum (d : Datum) (form : Case) (suffix : String) : Request :=
  ⟨d.display, Naming.source d, form, suffix⟩

/-- A sanitizer with the names it found before. -/
structure Names where
  sanitizer : Sanitizer
  memo : Entries String String
deriving DecidableEq, Repr, Inhabited

/-- A sanitizer that found no name yet. -/
def Sanitizer.names (s : Sanitizer) : Names := ⟨s, []⟩

/-- The name for a request: the remembered one, if there is one. -/
def Names.name (n : Names) (r : Request) : String :=
  (n.memo.lookup r.key).getD (n.sanitizer.fresh r.form r.suffix r.source)

/-- The memo with the name for a request. -/
def Names.remember (n : Names) (r : Request) : Names :=
  { n with memo := n.memo.put r.key (n.name r) }

@[simp] theorem Names.name_of_memo_nil (s : Sanitizer) (r : Request) :
    s.names.name r = s.fresh r.form r.suffix r.source := rfl

/-- The request for the identifier of a field: small first letter. -/
def Request.field (d : Datum) : Request := .ofDatum d .camel "Value"

/-- The identifier of a field. -/
def Names.field (n : Names) (d : Datum) : String := n.name (.field d)

/-- The identifier of a type: capital first letter. -/
def Names.type (n : Names) (source : String) : String :=
  n.name ⟨source, source, .pascal, "Model"⟩

end DartScaffold.Naming
