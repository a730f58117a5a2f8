/-
**Values of templates as documents.**

A value that fills templates can be looked at as a document.  A record is an object of all its
members but those that are functions.

Main definitions:

* `Template.Value.document` — a value as a document.
-/

import DartScaffold.Schema.Document
import DartScaffold.Template.Value

set_option relaxedAutoImplicit false
set_option autoImplicit false

namespace DartScaffold.Template.Value

mutual

/-- A value as a document. -/
def document : Value → Datum
  | .datum d => d.pairs
  | .list items => .list (documentItems items)
  | .tuple items => .list (documentItems items)
  | .symbol _ _ value => .text value
  | .record _ _ fields derived => .object (documentFields fields ++ documentFields derived)
  | .function _ => .null
  | .builtin _ => .null
  | .undefined _ => .null
  | .nothing _ => .null

def documentItems : List Value → List Datum
  | [] => []
  | v :: rest => document v :: documentItems rest

def documentFields : List (String × Value) → List (String × Datum)
  | [] => []
  | (_, .function _) :: rest => documentFields rest
  | (name, v) :: rest => (name, document v) :: documentFields rest

end

end DartScaffold.Template.Value
