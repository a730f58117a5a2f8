/-
**The settings of a run.**

The settings say where files go, what the generated client talks to, how the code is written, how
models are analyzed, where other templates are, and which models are left out.  They are kept in
sections of named fields.  A field holds the value that it was given; what it is worth is decided
where it is used.

Main definitions:

* `Settings` and its sections;
* `Settings.sections`, `Settings.standard` — the fields and their usual values;
* `Settings.document` — the settings as a document;
* `Settings.same` — equality by value.

Main results:

* `Settings.isSection_iff` — the names of the sections.
-/

import DartScaffold.Datum.Use

set_option relaxedAutoImplicit false
set_option autoImplicit false

namespace DartScaffold

/-! ### Sections -/

/-- Where generated files are written. -/
structure OutputSettings where
  basePath : Datum
  modelsPath : Datum
  servicesPath : Datum
  widgetsPath : Datum
  screensPath : Datum
  utilsPath : Datum
deriving Repr, Inhabited

/-- What the generated client talks to. -/
structure ApiSettings where
  baseUrl : Datum
  timeout : Datum
  authType : Datum
  authHeader : Datum
deriving Repr, Inhabited

/-- How the code is written. -/
structure CodeSettings where
  architecture : Datum
  nullSafety : Datum
  useFreezed : Datum
  useJsonAnnotation : Datum
  documentation : Datum
deriving Repr, Inhabited

/-- How models are analyzed. -/
structure AnalysisSettings where
  includeRelationships : Datum
  probeAccessors : Datum
  strict : Datum
  /-- The columns that are left out, each once. -/
  excludedAttributes : List Datum
deriving Repr, Inhabited

/-- Where templates are looked for before the built-in ones, and how their names end. -/
structure TemplateSettings where
  path : Datum
  extension : String
deriving Repr, Inhabited

/-- The settings of a run. -/
structure Settings where
  output : OutputSettings
  api : ApiSettings
  code : CodeSettings
  analysis : AnalysisSettings
  templates : TemplateSettings
  /-- The names of models that are left out. -/
  excludedModels : List Datum
deriving Repr, Inhabited

namespace Settings

/-! ### Names and usual values -/

/-- The sections in order, each with its fields and their usual values. -/
def sections : List (String × List (String × Datum)) := [
  ("output", [("base_path", .text "flutter_output"), ("models_path", .text "models"),
    ("services_path", .text "services"), ("widgets_path", .text "widgets"),
    ("screens_path", .text "screens"), ("utils_path", .text "utils")]),
  ("api", [("base_url", .text "http://localhost:8000/api"), ("timeout", .int 30),
    ("auth_type", .text "bearer"), ("auth_header", .text "Authorization")]),
  ("generation", [("architecture", .text "provider"), ("null_safety", .bool true),
    ("use_freezed", .bool false), ("use_json_annotation", .bool true),
    ("generate_documentation", .bool true)]),
  ("model_analysis", [("include_relationships", .bool true), ("probe_accessors", .bool false),
    ("strict", .bool false), ("excluded_attributes", .list [.text "email_verified_at",
      .text "password", .text "remember_token"])]),
  ("templates", [("path", .null), ("extension", .text ".dart.j2")])]

/-- The fields of a section with their usual values. -/
def fieldsOf (name : String) : List (String × Datum) := (sections.lookup name).getD []

/-- Whether there is a section of this name. -/
def isSection (name : String) : Bool := (sections.lookup name).isSome

/-- The names of the sections. -/
theorem isSection_iff (name : String) : isSection name = true ↔
    name ∈ ["output", "api", "generation", "model_analysis", "templates"] := by
  simp only [isSection, sections, List.lookup_cons, List.lookup_nil]
  repeat' split
  all_goals simp_all

/-- The usual settings as a document. -/
def usual : List (String × Datum) :=
  (sections.map fun (name, fields) => (name, .object fields)) ++ [("excluded_models", .list [])]

/-- The usual settings. -/
def standard : Settings where
  output := ⟨.text "flutter_output", .text "models", .text "services", .text "widgets",
    .text "screens", .text "utils"⟩
  api := ⟨.text "http://localhost:8000/api", .int 30, .text "bearer", .text "Authorization"⟩
  code := ⟨.text "provider", .bool true, .bool false, .bool true, .bool true⟩
  analysis := ⟨.bool true, .bool false, .bool false,
    [.text "email_verified_at", .text "password", .text "remember_token"]⟩
  templates := ⟨.null, ".dart.j2"⟩
  excludedModels := []

/-! ### As a document -/

/-- The settings as a document; the left-out columns come in order. -/
def document (s : Settings) : Except Misuse Datum := do
  let excluded ← Datum.ordered s.analysis.excludedAttributes
  return .object [
    ("output", .object [("base_path", s.output.basePath), ("models_path", s.output.modelsPath),
      ("services_path", s.output.servicesPath), ("widgets_path", s.output.widgetsPath),
      ("screens_path", s.output.screensPath), ("utils_path", s.output.utilsPath)]),
    ("api", .object [("base_url", s.api.baseUrl), ("timeout", s.api.timeout),
      ("auth_type", s.api.authType), ("auth_header", s.api.authHeader)]),
    ("generation", .object [("architecture", s.code.architecture),
      ("null_safety", s.code.nullSafety), ("use_freezed", s.code.useFreezed),
      ("use_json_annotation", s.code.useJsonAnnotation),
      ("generate_documentation", s.code.documentation)]),
    ("model_analysis", .object [("include_relationships", s.analysis.includeRelationships),
      ("probe_accessors", s.analysis.probeAccessors), ("strict", s.analysis.strict),
      ("excluded_attributes", .list excluded)]),
    ("templates", .object [("path", s.templates.path),
      ("extension", .text s.templates.extension)]),
    ("excluded_models", .list s.excludedModels)]

/-- Two lists have the same members, by value. -/
def sameMembers (a b : List Datum) : Bool :=
  a.length == b.length && a.all fun d => d.isIn b

/-- Equality by value, field by field; the left-out columns are compared as a set. -/
def same (s t : Settings) : Bool :=
  sameMembers s.analysis.excludedAttributes t.analysis.excludedAttributes &&
    Datum.sameItems (fields s) (fields t) && s.templates.extension == t.templates.extension &&
    Datum.sameItems s.excludedModels t.excludedModels
where
  /-- The fields that hold one value each. -/
  fields (s : Settings) : List Datum := [
    s.output.basePath, s.output.modelsPath, s.output.servicesPath, s.output.widgetsPath,
    s.output.screensPath, s.output.utilsPath, s.api.baseUrl, s.api.timeout, s.api.authType,
    s.api.authHeader, s.code.architecture, s.code.nullSafety, s.code.useFreezed,
    s.code.useJsonAnnotation, s.code.documentation, s.analysis.includeRelationships,
    s.analysis.probeAccessors, s.analysis.strict, s.templates.path]

end Settings

end DartScaffold
