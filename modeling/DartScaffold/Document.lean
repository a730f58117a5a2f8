/-
**Documents from files and from the web.**

A document in JSON is read from a file, or fetched from the web if its source is an address there.
What is wrong with the source is logged before it ends the run; a source that is merely unusual, a
file of another extension or an answer of another content type, is read with a warning.

Main definitions:

* `Document` — a document and where it came from;
* `Document.ofFile`, `Document.ofWeb` — reading and fetching;
* `Document.load` — either, by the form of the source.
-/

import DartScaffold.Datum.Parser
import DartScaffold.Session
import DartScaffold.Web.Body
import DartScaffold.Web.Url

set_option relaxedAutoImplicit false
set_option autoImplicit false

namespace DartScaffold

/-- A document and where it came from. -/
structure Document where
  source : String
  content : Datum
deriving Repr

namespace Document

/-- Logs a fault and ends the run with it. -/
def failWith {α : Type} (entry : String) (fault : Fault) : Run α := do
  Run.logError entry
  throw fault

/-! ### Files -/

/-- The document in a file. -/
def ofFile (file : String) : Run Document := do
  let p := Path.ofString file
  let tree ← Run.tree
  if !(← (tree.pathExists p : Except FileError Bool)) then
    failWith ("File not found: " ++ p.text) (.missingDocument p.text)
  if Text.lower p.extension ≠ ".json" then
    Run.warn ("File does not have .json extension: " ++ p.text)
  match tree.read p with
  | .error e =>
    let fault := SourceFault.unreadableFile p.text e
    failWith fault.message (.source fault)
  | .ok content =>
    match content.lineText with
    | .error f => throw (.undecodable f)
    | .ok text =>
      match Datum.parse text with
      | .ok d => return ⟨p.text, d⟩
      | .error (.overLimit limit) => throw (.overLimit limit)
      | .error e =>
        let fault := SourceFault.malformedFile p.text (e.message text)
        failWith fault.message (.source fault)

/-! ### The web -/

/-- The type of content that asks for no warning. -/
def contentType : String := "application/json"

/-- What is logged when a request fails: a connection that fails is logged with its reason. -/
def failureEntry (refusal : Web.Refusal) (fault : SourceFault) (url : String) : String :=
  match refusal with
  | .noConnection reason => "Connection error for URL " ++ url ++ ": " ++ reason
  | _ => fault.message

/-- Ends the run because there is no answer. -/
def refused {α : Type} (url : String) (refusal : Web.Refusal) : Run α :=
  match refusal with
  | .lostStatus => throw (.misuse (.lacksOperation "NoneType" "status_code"))
  | .timeout => fail (.timeout url)
  | .noConnection _ => fail (.noConnection url)
  | .failed reason => fail (.requestFailed url reason)
  | .malformed reason => fail (.malformedAnswer url reason)
where
  fail (fault : SourceFault) : Run α := failWith (failureEntry refusal fault url) (.source fault)

/-- The document that an address on the web answers with. -/
def ofWeb (url : String) (timeout : Datum) : Run Document := do
  match Web.isUrl url with
  | .error f => throw (.badValue f.message)
  | .ok false => failWith ("Invalid URL format: " ++ url) (.source (.notUrl url))
  | .ok true =>
    match ← Run.send ⟨url, timeout⟩ with
    | .error refusal => refused url refusal
    | .ok response =>
      if response.isFailure then
        let fault := SourceFault.badStatus response.status url
        failWith fault.message (.source fault)
      else
        let given := Text.lower ((response.header? "content-type").getD "")
        if !Text.contains contentType given && !Text.endsWith ".json" url then
          Run.warn ("URL " ++ url ++ " does not have JSON content type: " ++ given)
        let text := Web.bodyText response.body
        match Datum.parse text with
        | .ok d => return ⟨url, d⟩
        | .error (.overLimit (.digits n)) =>
          refused url (.malformed (Datum.Limit.digits n).message)
        | .error (.overLimit limit) => throw (.overLimit limit)
        | .error e => refused url (.failed (e.message text))

/-! ### Either -/

/-- The document from a source: an address on the web or a file. -/
def load (source timeout : Datum) : Run Document :=
  if !source.truthy then throw (.source .noSource)
  else
    match source with
    | .text s =>
      match Web.isUrl s with
      | .error f => throw (.badValue f.message)
      | .ok true => ofWeb s timeout
      | .ok false => ofFile s
    | d => throw (.misuse (.notPath d.kindName))

end Document

end DartScaffold
