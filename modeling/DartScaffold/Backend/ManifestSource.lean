/-
**Manifests from files and from the web.**

A manifest is loaded as a document.  That there is no such document is a fault of the backend's
description, which names the source.

Main definitions:

* `Backend.Manifest.load` — the manifest from a source.
-/

import DartScaffold.Backend.Manifest
import DartScaffold.Document

set_option relaxedAutoImplicit false
set_option autoImplicit false

namespace DartScaffold.Backend.Manifest

/-- A fault of loading a document, as one of the description that it should have held. -/
def descriptionFault (source : Datum) : Fault → Fault
  | .source fault => .description (.notLoaded source.display fault.message)
  | .missingDocument path =>
    .description (.notLoaded source.display (Fault.missingDocument path).message)
  | fault => fault

/-- The manifest from a source. -/
def load (source timeout : Datum) : Run Manifest := do
  match ← Run.attempt (Document.load source timeout) with
  | .error fault => throw (descriptionFault source fault)
  | .ok document => (ofDocument document.source document.content : Except Fault Manifest)

end DartScaffold.Backend.Manifest
