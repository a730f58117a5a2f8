/-
**The transport.**

All generated services send their requests through one class, the transport.  It knows the address
of the backend, how long to wait for an answer, and how requests are authorized.

Main definitions:

* `Dart.Transport`, `Dart.transport` — what the transport consists of;
* `Dart.authScheme?` — the word before a token.
-/

import DartScaffold.Dart.Context
import DartScaffold.Datum.Use
import DartScaffold.Template.Value

set_option relaxedAutoImplicit false
set_option autoImplicit false

namespace DartScaffold.Dart

/-- What the transport consists of. -/
structure Transport where
  baseUrl : String
  timeout : Int
  authType : String
  authHeader : Datum
  /-- The word before a token. -/
  authScheme : String
  mark : String
  faultComment : String
  serviceComment : String
deriving Repr, Inhabited

/-- The word before a token, by the way of authorizing. -/
def authScheme? (authType : String) : Option String :=
  [("bearer", "Bearer"), ("basic", "Basic")].lookup authType

/-- The transport as a value in templates. -/
def Transport.value (t : Transport) : Template.Value :=
  .record (recordName "api_base" "ApiBaseSpec") none [
    ("base_url", .text t.baseUrl), ("timeout", .datum (.int t.timeout)),
    ("auth_type", .text t.authType), ("auth_header", .datum t.authHeader),
    ("auth_scheme", .text t.authScheme), ("nullable_suffix", .text t.mark),
    ("doc_exception", .text t.faultComment), ("doc_service", .text t.serviceComment)] []

/-- The transport that the settings ask for.  A way of authorizing that is not known is none. -/
def transport (c : Context) : Except Misuse Transport := do
  let api := c.settings.api
  let given := Text.lower (← (api.authType.orElse (.text "none")).textFor "lower")
  let scheme := authScheme? given
  let url ← api.baseUrl.textFor "rstrip"
  let timeout ← api.timeout.wholeNumber
  return {
    baseUrl := Text.dropTrailing '/' url
    timeout := timeout
    authType := if scheme.isSome then given else "none"
    authHeader := api.authHeader
    authScheme := scheme.getD ""
    mark := c.mark
    faultComment := c.comment 0 "Error raised by generated API services."
    serviceComment := c.comment 0 "HTTP transport shared by generated API services." }

end DartScaffold.Dart
