/-
**Exchanges on the web.**

A document on the web is asked for by its address, with a limit on the time to wait.  The answer has
a status, headers and a body, or there is none, for a reason.

Main definitions:

* `Web.Request`, `Web.Response` — a question and its answer;
* `Web.Refusal` — why there is no answer;
* `Web.Service` — what answers requests;
* `Web.Response.header?` — a header by its name, in whatever case it is written.
-/

import DartScaffold.Datum.Basic
import DartScaffold.Entries
import DartScaffold.Text.LetterCase

set_option relaxedAutoImplicit false
set_option autoImplicit false

namespace DartScaffold.Web

/-- A question for a document. -/
structure Request where
  url : String
  /-- How long to wait, as the settings give it. -/
  timeout : Datum
deriving Repr

/-- An answer. -/
structure Response where
  status : Int
  headers : Entries String String
  body : String
deriving Repr

/-- Why there is no answer. -/
inductive Refusal where
  /-- It took too long. -/
  | timeout
  | noConnection (reason : String)
  /-- The answer was refused for its status, which is not known any more. -/
  | lostStatus
  /-- The exchange failed in another way. -/
  | failed (reason : String)
  /-- A value of the exchange was malformed. -/
  | malformed (reason : String)
deriving DecidableEq, Repr

/-- What answers requests. -/
abbrev Service := Request → Except Refusal Response

/-- A web out of reach. -/
def unreachable : Service := fun _ => .error (.noConnection "the web is out of reach")

/-- A header by its name; of several, the last. -/
def Response.header? (r : Response) (name : String) : Option String :=
  (r.headers.reverse.find? fun h => Text.lower h.1 == Text.lower name).map Prod.snd

/-- Whether the status tells of a failure. -/
def Response.isFailure (r : Response) : Bool := 400 ≤ r.status && r.status < 600

end DartScaffold.Web
