/-
**What a backend answers.**

A backend answers questions about a model and about a route, each on its own: an answer is a value
or a fault.  The answers are listed here by the names of the questions.

Main definitions:

* `Backend.ModelView.answers` — what is answered about a model;
* `Backend.entryAnswers` — what is answered about a route.
-/

import DartScaffold.Backend.View
import DartScaffold.Routing.Analysis
import DartScaffold.Schema.Document

set_option relaxedAutoImplicit false
set_option autoImplicit false

namespace DartScaffold.Backend

/-- A declared relation as a document. -/
def RelationEntry.document : RelationEntry → Datum
  | .value d => d.pairs
  | .ready relation => relation.document

/-- Declared relations as a document. -/
def Declared.document : Declared → Datum
  | .nothing => .null
  | .other kind => .text kind
  | .entries found => .ofEntries RelationEntry.document found

/-- Answers with every object as the list of its pairs. -/
def inPairs (answers : List (String × Except Fault Datum)) : List (String × Except Fault Datum) :=
  answers.map fun (question, answer) => (question, answer.map Datum.pairs)

/-- What is answered about a model. -/
def ModelView.answers (v : ModelView) : List (String × Except Fault Datum) :=
  inPairs [
    ("get_model_name", v.name), ("get_table", v.table), ("get_key_name", v.keyName),
    ("get_fillable", v.fillable), ("get_guarded", v.guarded), ("get_hidden", v.hidden),
    ("get_casts", v.casts), ("get_date_attributes", v.dates), ("has_soft_delete", v.softDelete),
    ("uses_timestamps", v.timestamps), ("rules", v.rules)] ++
  [("declared_relationships", v.declared.map Declared.document)]

/-- What is answered about a route; the action is a mapping. -/
def entryAnswers (e : Routing.Entry) : List (String × Except Fault Datum) :=
  [("uri", e.uri), ("methods", e.methods), ("name", e.name),
    ("action", e.action.map Datum.pairs), ("middleware", e.middleware),
    ("parameters", e.parameters)]

end DartScaffold.Backend
