/-
**Settings in layers.**

The settings are put together from layers: the usual values, the environment, a file, and
overrides.  Keys may be written with capitals as in `basePath` or with low lines as in
`base_path`; they are brought to the second form first.  A layer is laid over another one key by
key; where both have an object under a key, the objects are merged in the same way, and otherwise
the upper value counts.

Main definitions:

* `Settings.keyName`, `Settings.normalized` — keys in one form;
* `Settings.overlay` — one layer laid over another;
* `Settings.ofDocument` — the settings that a merged document stands for;
* `Settings.warnings` — what is odd about them.

Main results:

* `Settings.overlay_nil` — an empty layer changes nothing.
-/

import DartScaffold.Settings.Basic
import DartScaffold.Text.LetterCase

set_option relaxedAutoImplicit false
set_option autoImplicit false

namespace DartScaffold.Settings

/-! ### Keys -/

/-- A low line before each capital that follows a small letter or a digit. -/
def markCapitals (previous : Option Char) : List Char → List Char
  | [] => []
  | c :: rest =>
    let marked := c :: markCapitals (some c) rest
    if c.isUpper && previous.any fun p => p.isLower || p.isDigit then '_' :: marked else marked

/-- A key in small letters with low lines. -/
def keyName (key : String) : String :=
  Text.lower (String.ofList (markCapitals none key.toList))

mutual

/-- A document with all keys in one form; of two keys with the same form the later counts. -/
def normalized : Datum → Datum
  | .object members => .object (normalizedMembers [] members)
  | d => d

/-- Members with keys in one form, written after those already read. -/
def normalizedMembers (read : List (String × Datum)) :
    List (String × Datum) → List (String × Datum)
  | [] => read
  | (k, d) :: rest => normalizedMembers (Entries.put (keyName k) (normalized d) read) rest

end

/-! ### Laying one over another -/

mutual

/-- The members of a layer laid over those below. -/
def overlay (below : List (String × Datum)) : List (String × Datum) → List (String × Datum)
  | [] => below
  | (k, d) :: rest => overlay (Entries.put k (overlayValue (below.lookup k) d) below) rest

/-- A value laid over the one below: two objects are merged. -/
def overlayValue (below : Option Datum) : Datum → Datum
  | .object above =>
    match below with
    | some (.object members) => .object (overlay members above)
    | _ => .object above
  | d => d

end

@[simp] theorem overlay_nil (below : List (String × Datum)) : overlay below [] = below := by
  simp [overlay]

/-! ### Reading the result -/

/-- The fields that a section of a document sets; a section that counts as nothing sets none. -/
def sectionOf (members : List (String × Datum)) (name : String) :
    Except Fault (List (String × Datum)) :=
  match (members.lookup name).getD .null with
  | .object fields => .ok fields
  | d => if d.truthy then .error (.settings (.sectionNotObject name)) else .ok []

/-- The value of a field: the one that is set, or else the usual one. -/
def fieldIn (name : String) (set : List (String × Datum)) (field : String) : Datum :=
  (set.lookup field).getD (((fieldsOf name).lookup field).getD .null)

/-- The settings that a merged document stands for.  The extension is kept apart, for it has to
be a text only once all else has been looked at. -/
def ofDocument (members : List (String × Datum)) : Except Fault (Settings × Datum) := do
  let output ← sectionOf members "output"
  let api ← sectionOf members "api"
  let code ← sectionOf members "generation"
  let analysis ← sectionOf members "model_analysis"
  let templates ← sectionOf members "templates"
  let excluded ← (fieldIn "model_analysis" analysis "excluded_attributes").elementsOrNone
  let models := (members.lookup "excluded_models").getD .null
  let excludedModels ← if models.truthy then (models.items : Except Misuse _) else pure []
  let extension := fieldIn "templates" templates "extension"
  return ({
    output := {
      basePath := fieldIn "output" output "base_path"
      modelsPath := fieldIn "output" output "models_path"
      servicesPath := fieldIn "output" output "services_path"
      widgetsPath := fieldIn "output" output "widgets_path"
      screensPath := fieldIn "output" output "screens_path"
      utilsPath := fieldIn "output" output "utils_path" }
    api := {
      baseUrl := fieldIn "api" api "base_url"
      timeout := fieldIn "api" api "timeout"
      authType := fieldIn "api" api "auth_type"
      authHeader := fieldIn "api" api "auth_header" }
    code := {
      architecture := fieldIn "generation" code "architecture"
      nullSafety := fieldIn "generation" code "null_safety"
      useFreezed := fieldIn "generation" code "use_freezed"
      useJsonAnnotation := fieldIn "generation" code "use_json_annotation"
      documentation := fieldIn "generation" code "generate_documentation" }
    analysis := {
      includeRelationships := fieldIn "model_analysis" analysis "include_relationships"
      probeAccessors := fieldIn "model_analysis" analysis "probe_accessors"
      strict := fieldIn "model_analysis" analysis "strict"
      excludedAttributes := excluded }
    templates := {
      path := fieldIn "templates" templates "path"
      extension := extension.display }
    excludedModels := excludedModels }, extension)

/-! ### Warnings -/

/-- The keys of a document that nothing reads. -/
def unknownKeys (members : List (String × Datum)) : List String :=
  members.flatMap fun (key, d) =>
    if !isSection key then (if key = "excluded_models" then [] else [key])
    else match d with
      | .object fields =>
        (fields.filter fun f => ((fieldsOf key).lookup f.1).isNone).map fun f => key ++ "." ++ f.1
      | _ => []

/-- Whether a value is one of some texts. -/
def isOneOf (texts : List String) (d : Datum) : Except Misuse Bool :=
  if d.hashable then .ok (texts.any fun t => d.same (.text t))
  else .error (.unhashable d.kindName)

/-- A whole number above zero. -/
def isPositive : Datum → Bool
  | .bool b => b
  | .int i => decide (0 < i)
  | _ => false

/-- What is odd about the values of some settings. -/
def valueWarnings (s : Settings) (extension : Datum) : Except Misuse (List String) := do
  let auth ← isOneOf ["bearer", "basic", "none"] s.api.authType
  let architecture ← isOneOf ["provider", "bloc", "riverpod"] s.code.architecture
  let extension ← extension.textFor "startswith"
  return (if auth then [] else ["Invalid api.auth_type: " ++ s.api.authType.display]) ++
    (if architecture then []
      else ["Invalid generation.architecture: " ++ s.code.architecture.display]) ++
    (if isPositive s.api.timeout then []
      else ["Invalid api.timeout: " ++ s.api.timeout.display]) ++
    (if Text.startsWith "." extension then []
      else ["Invalid templates.extension: " ++ extension])

/-- What is odd about some settings and the document they were read from. -/
def warnings (s : Settings) (extension : Datum) (raw : List (String × Datum)) :
    Except Misuse (List String) := do
  let odd ← valueWarnings s extension
  return ((unknownKeys raw).map ("Unknown configuration key: " ++ ·)) ++ odd

end DartScaffold.Settings
