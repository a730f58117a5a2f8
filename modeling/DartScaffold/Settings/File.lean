/-
**Settings in files.**

The settings are loaded in the order of their layers, each laid over those before: the usual
values, the environment, a file, overrides.  They are saved as a document in JSON.

Main definitions:

* `Settings.load` — the settings from all layers;
* `Settings.readLayer` — the layer that a file holds;
* `Settings.save` — writes settings to a file.
-/

import DartScaffold.Datum.Parser
import DartScaffold.Datum.Writer
import DartScaffold.Session
import DartScaffold.Settings.Layers

set_option relaxedAutoImplicit false
set_option autoImplicit false

namespace DartScaffold.Settings

/-! ### Loading -/

/-- The variable of the environment that sets the address of the interface. -/
def addressVariable : String := "FLUTTER_API_BASE_URL"

/-- The layer that the environment gives: an address that counts as something. -/
def environmentLayer (address : Datum) : List (String × Datum) :=
  if address.truthy then [("api", .object [("base_url", address)])] else []

/-- The document that a text is written for. -/
def documentIn (path source : String) : Except Fault Datum :=
  match Datum.parse source with
  | .ok d => .ok d
  | .error (.overLimit limit) => .error (.overLimit limit)
  | .error e => .error (.settings (.malformed path (e.message source)))

/-- The layer that a file holds. -/
def readLayer (file : String) : Run (List (String × Datum)) := do
  let p := Path.ofString file
  let tree ← Run.tree
  if !(← (tree.pathExists p : Except FileError Bool)) then
    throw (.settings (.missingFile p.text))
  if Text.lower p.extension ≠ ".json" then throw (.settings (.notJson p.text))
  match tree.read p with
  | .error e => throw (.settings (.unreadable p.text e))
  | .ok content =>
    match content.lineText with
    | .error f => throw (.undecodable f)
    | .ok source =>
      match ← documentIn p.text source with
      | .object members => return normalizedMembers [] members
      | _ => throw (.settings (.notObject p.text))

/-- The layer of a file that may be missing. -/
def fileLayer (file : Datum) : Run (List (String × Datum)) :=
  if file.truthy then
    match file with
    | .text f => readLayer f
    | d => throw (.misuse (.notPath d.kindName))
  else return []

/-- The layer of overrides that may be missing. -/
def overridesLayer (overrides : Datum) : Except Misuse (List (String × Datum)) :=
  if overrides.truthy then (normalized overrides).membersFor "items" else .ok []

/-- The settings from all layers: the address in the environment, a file and overrides.  What is
odd about them is logged. -/
def load (address file overrides : Datum) : Run Settings := do
  let lower := overlay (overlay usual (environmentLayer address)) (← fileLayer file)
  let merged := overlay lower (← (overridesLayer overrides : Except Misuse _))
  let (settings, extension) ← (ofDocument merged : Except Fault _)
  Run.warnAll (← (warnings settings extension merged : Except Misuse _))
  return settings

/-! ### Saving -/

/-- Why a file cannot be written: a path with a null character is no path at all. -/
def unwritableFault (e : FileError) : Fault :=
  if e.fault = .nullCharacter then .file e else .settings (.unwritable e.path e)

/-- Writes a text to the file of settings. -/
def writeText (p : Path) (text : String) : Run Unit := do
  match (← Run.tree).write p text with
  | .error e => throw (unwritableFault e)
  | .ok tree => modify fun session => { session with tree := tree }

/-- Writes settings to a file.  The file is emptied first, so that it is left empty when the
settings cannot be written down. -/
def save (s : Settings) (file : Datum) : Run Unit := do
  match file with
  | .text file =>
    let p := Path.ofString file
    writeText p ""
    let document ← (s.document : Except Misuse Datum)
    writeText p document.pretty
  | d => throw (.misuse (.notPath d.kindName))

end DartScaffold.Settings
