/-
**Which layer counts.**

The settings of a run come from the usual values, the environment, a file and overrides.  For each
field the highest layer that sets it counts: the overrides, or else the file, or else the
environment, which sets nothing but the address of the interface, or else the usual value.  What a
layer leaves open, be it a field of a section, a whole section or everything, is decided by those
below.  So it is with the models that are left out.  Loading succeeds whenever the file and the
overrides can be read, whatever they hold beside the fields.

Main definitions:

* `Settings.valueOf` — what settings hold in a field of a section;
* `Settings.FileHolds` — a file with a layer in it, or none;
* `Settings.effective`, `Settings.effectiveModels` — what the highest layer says;
* `Settings.Carries` — settings that hold certain values.

Main results:

* `Settings.Complete.exists_ofDocument` — a complete document is read field by field;
* `Settings.fileLayer_run` — the layer in a file;
* `Settings.valueAt_merged` — what all layers come to;
* `Settings.load_run_warned` — loading reads it and logs what is odd about it;
* `Settings.load_precedence` — **loading gives what the highest layer says**.
-/

import DartScaffold.Proofs.Files.Additions
import DartScaffold.Proofs.Occurrences
import DartScaffold.Proofs.Settings.Overlay
import DartScaffold.Proofs.Steps
import DartScaffold.Settings.File

set_option relaxedAutoImplicit false
set_option autoImplicit false

namespace DartScaffold.Settings

variable {document members overrides : List (String × Datum)} {environment : Option String}
variable {sec field : String} {file d : Datum} {s : Session}

/-! ### What settings hold -/

/-- What settings hold, section by section.  The columns that are left out stand apart: they are a
set, and no value of a document is one. -/
def fieldValues (s : Settings) : List (String × List (String × Datum)) := [
  ("output", [("base_path", s.output.basePath), ("models_path", s.output.modelsPath),
    ("services_path", s.output.servicesPath), ("widgets_path", s.output.widgetsPath),
    ("screens_path", s.output.screensPath), ("utils_path", s.output.utilsPath)]),
  ("api", [("base_url", s.api.baseUrl), ("timeout", s.api.timeout),
    ("auth_type", s.api.authType), ("auth_header", s.api.authHeader)]),
  ("generation", [("architecture", s.code.architecture), ("null_safety", s.code.nullSafety),
    ("use_freezed", s.code.useFreezed), ("use_json_annotation", s.code.useJsonAnnotation),
    ("generate_documentation", s.code.documentation)]),
  ("model_analysis", [("include_relationships", s.analysis.includeRelationships),
    ("probe_accessors", s.analysis.probeAccessors), ("strict", s.analysis.strict)]),
  ("templates", [("path", s.templates.path), ("extension", .text s.templates.extension)])]

/-- What settings hold in a field of a section. -/
def valueOf (s : Settings) (sec field : String) : Option Datum :=
  (s.fieldValues.lookup sec).bind fun fields => fields.lookup field

/-- The items of a list; nothing else has any. -/
def itemsOf : Datum → List Datum
  | .list ds => ds
  | _ => []

/-- Settings hold certain values: the columns that are left out as a set, the models as a list. -/
structure Carries (s : Settings) (value : String → String → Option Datum)
    (models : Option Datum) : Prop where
  fields : ∀ sec field, isField sec field = true → kindOf sec field ≠ .texts →
    s.valueOf sec field = value sec field
  once : s.analysis.excludedAttributes.Nodup
  attributes : ∀ d, d ∈ s.analysis.excludedAttributes ↔
    d ∈ itemsOf ((value "model_analysis" "excluded_attributes").getD .null)
  models : s.excludedModels = itemsOf (models.getD .null)

/-- Only values of fields count. -/
theorem Carries.congr {t : Settings} {value value' : String → String → Option Datum}
    {models : Option Datum} (h : t.Carries value models)
    (hvalue : ∀ sec field, isField sec field = true → value sec field = value' sec field) :
    t.Carries value' models where
  fields sec field hfield hkind := (h.fields sec field hfield hkind).trans (hvalue _ _ hfield)
  once := h.once
  attributes := by
    rw [← hvalue "model_analysis" "excluded_attributes" (by decide)]
    exact h.attributes
  models := h.models

/-! ### Reading a complete document -/

theorem FieldKind.texts_iff : FieldKind.texts.admits d = true ↔
    d = .null ∨ ∃ ss : List String, d = .list (ss.map .text) := by
  constructor
  · intro h
    cases d with
    | null => exact .inl rfl
    | list ds => exact .inr (Backend.exists_texts h)
    | _ => cases h
  · rintro (rfl | ⟨ss, rfl⟩)
    · rfl
    · show (ss.map Datum.text).all Backend.isText = true
      simp [Backend.isText]

/-- Texts as a set. -/
theorem exists_elementsOrNone (h : FieldKind.texts.admits d = true) :
    ∃ found, d.elementsOrNone = .ok found ∧ found.Nodup ∧ ∀ e, e ∈ found ↔ e ∈ itemsOf d := by
  rcases FieldKind.texts_iff.1 h with rfl | ⟨ss, rfl⟩
  · exact ⟨[], rfl, List.nodup_nil, fun _ => Iff.rfl⟩
  · refine ⟨ss.eraseDups.map .text, ?_, ?_, ?_⟩
    · rw [Datum.elementsOrNone_list]
      exact Datum.elements_texts ss
    · exact (nodup_eraseDups ss).map fun _ _ hst => Datum.text.inj hst
    · intro e
      simp [itemsOf]

/-- Texts as a list. -/
theorem bind_items (h : FieldKind.texts.admits d = true) {α : Type}
    (f : List Datum → Except Fault α) :
    (if d.truthy then (liftM d.items : Except Fault _) >>= f else pure [] >>= f) =
      f (itemsOf d) := by
  rcases FieldKind.texts_iff.1 h with rfl | ⟨ss, rfl⟩
  · rfl
  · cases ss <;> rfl

/-- The fields of a section of a document. -/
def fieldsIn (document : List (String × Datum)) (sec : String) : List (String × Datum) :=
  match document.lookup sec with
  | some (.object fields) => fields
  | _ => []

theorem Complete.sectionOf_eq (h : Complete document) (hsec : isSection sec = true) :
    sectionOf document sec = .ok (fieldsIn document sec) := by
  obtain ⟨fields, hfields⟩ := h.sections sec hsec
  rw [sectionOf, fieldsIn, hfields]
  rfl

/-- A field of a complete document is read where it is. -/
theorem Complete.valueAt_eq (h : Complete document) (hfield : isField sec field = true) :
    valueAt document sec field = some (fieldIn sec (fieldsIn document sec) field) := by
  obtain ⟨d, hd, -⟩ := h.fields sec field hfield
  obtain ⟨fields, hfields⟩ := h.sections sec (isSection_of_isField hfield)
  rw [hd]
  rw [valueAt, hfields] at hd
  replace hd : fields.lookup field = some d := hd
  rw [fieldIn, fieldsIn, hfields]
  dsimp only
  rw [hd]
  rfl

/-- What is read for a field, the field may hold. -/
theorem Complete.admits (h : Complete document) (hfield : isField sec field = true) :
    (kindOf sec field).admits (fieldIn sec (fieldsIn document sec) field) = true := by
  obtain ⟨d, hd, hadmits⟩ := h.fields sec field hfield
  obtain rfl : fieldIn sec (fieldsIn document sec) field = d :=
    Option.some.inj ((h.valueAt_eq hfield).symm.trans hd)
  exact hadmits

/-- The fields of a section with their values, without columns that are left out. -/
def rowOf (value : String → String → Datum) (sec : String) (fields : List (String × Datum)) :
    List (String × Datum) :=
  (fields.filter fun f => decide (kindOf sec f.1 ≠ .texts)).map fun f => (f.1, value sec f.1)

/-- The sections with the values of their fields. -/
def tableOf (value : String → String → Datum) : List (String × List (String × Datum)) :=
  sections.map fun s => (s.1, rowOf value s.1 s.2)

theorem isField_of_mem_sections : ∀ row ∈ sections, ∀ f ∈ row.2, isField row.1 f.1 = true := by
  decide

/-- Only values of fields are in the table. -/
theorem tableOf_congr {value value' : String → String → Datum}
    (h : ∀ sec field, isField sec field = true → kindOf sec field ≠ .texts →
      value sec field = value' sec field) : tableOf value = tableOf value' := by
  refine List.map_congr_left fun row hrow => Prod.ext rfl ?_
  refine List.map_congr_left fun f hf => Prod.ext rfl ?_
  obtain ⟨hmem, hkind⟩ := List.mem_filter.1 hf
  exact h row.1 f.1 (isField_of_mem_sections row hrow f hmem) (of_decide_eq_true hkind)

/-- A field is found in the table. -/
theorem lookup_tableOf (value : String → String → Datum) (hfield : isField sec field = true)
    (hkind : kindOf sec field ≠ .texts) :
    (((tableOf value).lookup sec).bind fun fields => fields.lookup field) =
      some (value sec field) := by
  obtain ⟨d, hd⟩ := Option.isSome_iff_exists.1 hfield
  obtain ⟨fields, hfields⟩ := Option.isSome_iff_exists.1 (isSection_of_isField hfield)
  rw [fieldsOf, hfields, Option.getD_some] at hd
  rw [tableOf, Entries.lookup_map (rowOf value), hfields, Option.map_some, Option.bind_some, rowOf,
    Entries.lookup_map fun name _ => value sec name,
    Entries.lookup_filter fun name => decide (kindOf sec name ≠ .texts),
    if_pos (decide_eq_true hkind), hd]
  rfl

/-- Whatever is read from a complete document, it is read successfully. -/
theorem Complete.exists_fieldValues (h : Complete document) {found : List Datum}
    (hfound : (fieldIn "model_analysis" (fieldsIn document "model_analysis")
      "excluded_attributes").elementsOrNone = .ok found) :
    ∃ t : Settings, ofDocument document = .ok (t, .text t.templates.extension) ∧
      t.fieldValues = tableOf (fun sec field => fieldIn sec (fieldsIn document sec) field) ∧
      t.analysis.excludedAttributes = found ∧
      t.excludedModels = itemsOf ((document.lookup "excluded_models").getD .null) := by
  have hfield : isField "templates" "extension" = true := by decide
  obtain ⟨extension, hextension⟩ := (Backend.isText_iff _).1 (h.admits hfield)
  obtain ⟨models, hmodels, hnames⟩ := h.models
  have hlist : FieldKind.texts.admits ((document.lookup "excluded_models").getD .null) = true := by
    rwa [hmodels]
  unfold ofDocument
  rw [h.sectionOf_eq (by decide), h.sectionOf_eq (by decide), h.sectionOf_eq (by decide),
    h.sectionOf_eq (by decide), h.sectionOf_eq (by decide)]
  -- All sections are there, so the first thing to be read is which columns are left out.
  show ∃ t : Settings, (do
    let excluded ← (liftM (Datum.elementsOrNone _) : Except Fault _)
    _ : Except Fault (Settings × Datum)) = _ ∧ _
  rw [hfound, liftM_ok, hextension]
  simp only [bind_items hlist]
  refine ⟨_, rfl, ?_, rfl, rfl⟩
  rw [fieldValues]
  dsimp only
  rw [Datum.display_text, ← hextension]
  rfl

/-- **A complete document is read field by field.** -/
theorem Complete.exists_ofDocument (h : Complete document) :
    ∃ t : Settings, ofDocument document = .ok (t, .text t.templates.extension) ∧
      t.Carries (valueAt document) (document.lookup "excluded_models") := by
  have hexcluded : isField "model_analysis" "excluded_attributes" = true := by decide
  obtain ⟨found, hfound, honce, hmem⟩ := exists_elementsOrNone (h.admits hexcluded)
  obtain ⟨t, ht, hfields, rfl, hmodels⟩ := h.exists_fieldValues hfound
  refine ⟨t, ht, ?_, honce, ?_, hmodels⟩
  · intro sec field hfield hkind
    rw [valueOf, hfields, lookup_tableOf _ hfield hkind, h.valueAt_eq hfield]
  · rw [h.valueAt_eq hexcluded]
    exact hmem

/-! ### The layers -/

/-- The usual document has the usual values. -/
theorem lookup_usual (hsec : isSection sec = true) :
    usual.lookup sec = some (.object (fieldsOf sec)) := by
  have hnames := (isSection_iff sec).1 hsec
  simp only [List.mem_cons, List.not_mem_nil, or_false] at hnames
  rcases hnames with rfl | rfl | rfl | rfl | rfl <;> rfl

theorem valueAt_usual (hsec : isSection sec = true) :
    valueAt usual sec field = (fieldsOf sec).lookup field := by
  rw [valueAt, lookup_usual hsec]
  rfl

/-- All usual values are such that the fields may hold them. -/
theorem admits_usual : ∀ s ∈ sections, ∀ f ∈ s.2, (kindOf s.1 f.1).admits f.2 = true := by
  decide

theorem complete_usual : Complete usual where
  sections sec hsec := ⟨_, lookup_usual hsec⟩
  fields := by
    intro sec field hfield
    obtain ⟨d, hd⟩ := Option.isSome_iff_exists.1 hfield
    obtain ⟨fields, hfields⟩ := Option.isSome_iff_exists.1 (isSection_of_isField hfield)
    refine ⟨d, (valueAt_usual (isSection_of_isField hfield)).trans hd, ?_⟩
    rw [fieldsOf, hfields, Option.getD_some] at hd
    have hmem : (sec, fields) ∈ _ := Entries.mem_of_lookup hfields
    exact admits_usual (sec, fields) hmem (field, d) (Entries.mem_of_lookup hd)
  models := ⟨.list [], rfl, rfl⟩

/-- What the environment sets: the address of the interface, unless it is empty. -/
def addressIn (environment : Option String) (sec field : String) : Option Datum :=
  if sec = "api" ∧ field = "base_url" then (environment.filter (· ≠ "")).map .text else none

theorem lookup_singleton (key name : String) (d : Datum) :
    [(key, d)].lookup name = if name = key then some d else none :=
  Entries.lookup_put key name d []

theorem environmentLayer_eq (environment : Option String) :
    environmentLayer (environment.elim .null .text) =
      ((environment.filter (· ≠ "")).elim [] fun address =>
        [("api", .object [("base_url", .text address)])]) := by
  cases environment with
  | none => rfl
  | some address =>
      rw [Option.elim_some, environmentLayer, Datum.truthy_text, Option.filter_some]
      by_cases hempty : address = ""
      · simp [hempty]
      · simp [hempty]

theorem proper_environmentLayer (environment : Option String) :
    Proper (environmentLayer (environment.elim .null .text)) := by
  rw [environmentLayer_eq]
  cases environment.filter (· ≠ "") with
  | none => exact wellTyped_nil.proper
  | some address =>
      refine ⟨List.nodup_singleton _, ?_, by rintro d ⟨⟩⟩
      intro sec d _ hd
      obtain ⟨rfl, rfl⟩ : sec = "api" ∧ _ = d := by simpa [lookup_singleton] using hd
      refine ⟨_, rfl, List.nodup_singleton _, ?_⟩
      intro field v _ hv
      obtain ⟨rfl, rfl⟩ : field = "base_url" ∧ _ = v := by simpa [lookup_singleton] using hv
      rfl

theorem valueAt_environmentLayer (environment : Option String) (sec field : String) :
    valueAt (environmentLayer (environment.elim .null .text)) sec field =
      addressIn environment sec field := by
  rw [environmentLayer_eq, addressIn, valueAt]
  cases environment.filter (· ≠ "") with
  | none => simp
  | some address =>
      rw [Option.elim_some, lookup_singleton]
      by_cases hsec : sec = "api"
      · simp [hsec, Datum.member?, lookup_singleton]
      · simp [hsec]

/-- What the highest layer says about a field. -/
def effective (environment : Option String) (file overrides : List (String × Datum))
    (sec field : String) : Option Datum :=
  (givenIn overrides sec field).or ((givenIn file sec field).or
    ((addressIn environment sec field).or ((fieldsOf sec).lookup field)))

/-- What the highest layer says about the models that are left out. -/
def effectiveModels (file overrides : List (String × Datum)) : Option Datum :=
  (given "excluded_models" overrides).or ((given "excluded_models" file).or (some (.list [])))

/-- All layers, laid over one another. -/
def merged (environment : Option String) (file overrides : List (String × Datum)) :
    List (String × Datum) :=
  overlay (overlay (overlay usual (environmentLayer (environment.elim .null .text)))
    (normalizedMembers [] file)) (normalizedMembers [] overrides)

theorem Readable.complete_merged (environment : Option String) (hf : Readable members)
    (ho : Readable overrides) : Complete (merged environment members overrides) :=
  ((complete_usual.overlay (proper_environmentLayer environment)).overlay hf.proper).overlay
    ho.proper

theorem complete_merged (environment : Option String) (hf : WellTyped members)
    (ho : WellTyped overrides) : Complete (merged environment members overrides) :=
  hf.readable.complete_merged environment ho.readable

/-- **What all layers come to.** -/
theorem valueAt_merged (environment : Option String) (hf : WellTyped members)
    (ho : WellTyped overrides) (hfield : isField sec field = true) :
    valueAt (merged environment members overrides) sec field =
      effective environment members overrides sec field := by
  have henvironment := complete_usual.overlay (proper_environmentLayer environment)
  rw [merged, (henvironment.overlay hf.proper).valueAt_overlay ho.proper hfield,
    henvironment.valueAt_overlay hf.proper hfield,
    complete_usual.valueAt_overlay (proper_environmentLayer environment) hfield,
    valueAt_environmentLayer, valueAt_usual (isSection_of_isField hfield),
    ho.valueAt_normalizedMembers hfield, hf.valueAt_normalizedMembers hfield]
  rfl

theorem lookup_merged_models (environment : Option String) (hf : WellTyped members)
    (ho : WellTyped overrides) :
    (merged environment members overrides).lookup "excluded_models" =
      effectiveModels members overrides := by
  have hnone :
      (environmentLayer (environment.elim .null .text)).lookup "excluded_models" = none := by
    rw [environmentLayer_eq]
    cases environment.filter (· ≠ "") <;> rfl
  rw [merged, lookup_overlay_models ho.proper, lookup_overlay_models hf.proper,
    lookup_overlay_models (proper_environmentLayer environment), ho.lookup_models,
    hf.lookup_models, hnone]
  rfl

/-! ### Loading -/

/-- The layer in a file. -/
inductive FileHolds (tree : FileTree) : Datum → List (String × Datum) → Prop
  /-- No file is named, and the layer is empty. -/
  | absent {file : Datum} (h : file.truthy = false) : FileHolds tree file []
  /-- The file holds a document in JSON that is an object. -/
  | json {name source : String} {content : FileTree.Content} {members : List (String × Datum)}
      (hread : tree.read (Path.ofString name) = .ok content)
      (hextension : Text.lower (Path.ofString name).extension = ".json")
      (htext : content.lineText = .ok source)
      (hparse : Datum.parse source = .ok (.object members)) :
      FileHolds tree (.text name) members

theorem readLayer_run {name source : String} {content : FileTree.Content}
    (hread : s.tree.read (Path.ofString name) = .ok content)
    (hextension : Text.lower (Path.ofString name).extension = ".json")
    (htext : content.lineText = .ok source)
    (hparse : Datum.parse source = .ok (.object members)) :
    (readLayer name).run.run s = (.ok (normalizedMembers [] members), s) := by
  have hexists : s.tree.pathExists (Path.ofString name) = .ok true :=
    FileTree.pathExists_eq_true_iff.2 ⟨_, FileTree.read_eq_ok_iff.1 hread⟩
  unfold readLayer
  have htree : (Run.tree).run.run s = (.ok s.tree, s) := rfl
  rw [run_bind, htree]
  dsimp only
  rw [hexists, hread]
  simp only [htext, hextension, documentIn, hparse, ne_eq, not_true_eq_false, if_false]
  rfl

theorem fileLayer_run (h : FileHolds s.tree file members) :
    (fileLayer file).run.run s = (.ok (normalizedMembers [] members), s) := by
  cases h with
  | absent h =>
      unfold fileLayer
      rw [if_neg (by simp [h])]
      rfl
  | @json name _ _ _ hread hextension htext hparse =>
      have hne : (Datum.text name).truthy = true := by
        rw [Datum.truthy_text, bne_iff_ne]
        rintro rfl
        exact absurd hextension (by decide +kernel)
      rw [fileLayer, if_pos hne]
      exact readLayer_run hread hextension htext hparse

theorem overridesLayer_eq (overrides : Option (List (String × Datum))) :
    overridesLayer (overrides.elim .null .object) =
      .ok (normalizedMembers [] (overrides.getD [])) := by
  cases overrides with
  | none => rw [Option.getD_none, normalizedMembers]; rfl
  | some members =>
      cases members with
      | nil => rw [Option.getD_some, normalizedMembers]; rfl
      | cons m members =>
          have htruthy : (Datum.object (m :: members)).truthy = true := rfl
          rw [Option.elim_some, Option.getD_some, overridesLayer, if_pos htruthy, normalized]
          rfl

theorem FieldKind.hashable_of_plain (h : FieldKind.plain.admits d = true) : d.hashable = true := by
  cases d <;> first | rfl | cases h

/-- Settings whose fields hold what they may are looked at for what is odd. -/
theorem exists_warnings {t : Settings} (hauth : t.api.authType.hashable = true)
    (harchitecture : t.code.architecture.hashable = true) (extension : String)
    (raw : List (String × Datum)) : ∃ texts, warnings t (.text extension) raw = .ok texts := by
  unfold warnings valueWarnings
  rw [isOneOf, if_pos hauth, isOneOf, if_pos harchitecture]
  exact ⟨_, rfl⟩

/-- What a plain field holds can be compared with the known values. -/
theorem Complete.hashable (h : Complete document) {t : Settings} {models : Option Datum}
    (ht : t.Carries (valueAt document) models) (hfield : isField sec field = true)
    (hkind : kindOf sec field = .plain) (hd : t.valueOf sec field = some d) :
    d.hashable = true := by
  obtain ⟨e, he, hadmits⟩ := h.fields sec field hfield
  rw [hkind] at hadmits
  rw [ht.fields sec field hfield (by rw [hkind]; decide), he] at hd
  exact Option.some.inj hd ▸ FieldKind.hashable_of_plain hadmits

/-- Loading reads what the layers come to, and then logs what is odd about it. -/
theorem load_run_warned {overrides : Option (List (String × Datum))}
    (hfile : FileHolds s.tree file members)
    (hdocument : merged environment members (overrides.getD []) = document) {t : Settings}
    (hread : ofDocument document = .ok (t, .text t.templates.extension)) {texts : List String}
    (htexts : warnings t (.text t.templates.extension) document = .ok texts) :
    (load (environment.elim .null .text) file (overrides.elim .null .object)).run.run s =
      (.ok t, s.warned texts) := by
  unfold load
  rw [run_bind, fileLayer_run hfile, overridesLayer_eq]
  show (liftM (ofDocument (merged environment members (overrides.getD []))) >>= _ :
    Run Settings).run.run s = _
  rw [hdocument, hread]
  show (liftM (warnings t (.text t.templates.extension)
    (merged environment members (overrides.getD []))) >>= _ : Run Settings).run.run s = _
  rw [hdocument, htexts]
  show (Run.warnAll texts >>= fun _ => pure t : Run Settings).run.run s = _
  rw [run_bind, run_warnAll]
  rfl

/-- So loading gives what the layers come to. -/
theorem load_run {overrides : Option (List (String × Datum))}
    (hfile : FileHolds s.tree file members)
    (hdocument : merged environment members (overrides.getD []) = document) {t : Settings}
    (hread : ofDocument document = .ok (t, .text t.templates.extension)) {texts : List String}
    (htexts : warnings t (.text t.templates.extension) document = .ok texts) :
    ((load (environment.elim .null .text) file (overrides.elim .null .object)).run.run s).1 =
      .ok t :=
  congrArg Prod.fst (load_run_warned hfile hdocument hread htexts)

/-- **Loading gives what the highest layer says**, for every field and for the models that are
left out, whatever the layers hold beside them. -/
theorem load_precedence (environment : Option String) (overrides : Option (List (String × Datum)))
    (hfile : FileHolds s.tree file members) (hm : WellTyped members)
    (ho : WellTyped (overrides.getD [])) :
    ∃ t : Settings,
      ((load (environment.elim .null .text) file (overrides.elim .null .object)).run.run s).1 =
        .ok t ∧
      t.Carries (effective environment members (overrides.getD []))
        (effectiveModels members (overrides.getD [])) := by
  have hcomplete := complete_merged environment hm ho
  obtain ⟨t, ht, hcarries⟩ := hcomplete.exists_ofDocument
  have hauth : isField "api" "auth_type" = true := by decide
  have harchitecture : isField "generation" "architecture" = true := by decide
  obtain ⟨texts, htexts⟩ := exists_warnings (hcomplete.hashable hcarries hauth rfl rfl)
    (hcomplete.hashable hcarries harchitecture rfl rfl) t.templates.extension
    (merged environment members (overrides.getD []))
  refine ⟨t, load_run hfile rfl ht htexts, ?_⟩
  rw [lookup_merged_models environment hm ho] at hcarries
  exact hcarries.congr fun sec field hfield => valueAt_merged environment hm ho hfield

/-- A file of settings. -/
def layeredText : String :=
  "\x7b\"output\": \x7b\"basePath\": \"lib\"\x7d, " ++
    "\"api\": \x7b\"timeout\": 5, \"retries\": [1]\x7d, \"excludedModels\": null\x7d"

/-- The members of the object in it. -/
def layeredMembers : List (String × Datum) := [
  ("output", .object [("basePath", .text "lib")]),
  ("api", .object [("timeout", .int 5), ("retries", .list [.int 1])]), ("excludedModels", .null)]

/-- Overrides for them. -/
def layeredOverrides : List (String × Datum) := [
  ("api", .object [("timeout", .null)]),
  ("modelAnalysis", .object [("excludedAttributes", .list [.text "secret"])])]

/-- A session with the file. -/
def layeredSession : Session :=
  .start (.ofContents [("codegen.json", some (.text layeredText))]) [] Web.unreachable

/-- Each layer has its say. -/
theorem load_precedence_layered : ∃ t : Settings,
    ((load (.text "https://env.test") (.text "codegen.json")
      (.object layeredOverrides)).run.run layeredSession).1 = .ok t ∧
    t.output.basePath = .text "lib" ∧ t.output.modelsPath = .text "models" ∧
    t.api.baseUrl = .text "https://env.test" ∧ t.api.timeout = .null ∧
    (∀ d, d ∈ t.analysis.excludedAttributes ↔ d ∈ [Datum.text "secret"]) ∧
    t.excludedModels = [] := by
  have hfile : FileHolds layeredSession.tree (.text "codegen.json") layeredMembers :=
    .json (show layeredSession.tree.read (Path.ofString "codegen.json") =
        .ok (.text layeredText) by decide +kernel) (by decide +kernel)
      (show (FileTree.Content.text layeredText).lineText = .ok layeredText by cbv) (by cbv)
  have hmembers : WellTyped layeredMembers := ⟨by decide +kernel, by decide +kernel⟩
  have hoverrides : WellTyped layeredOverrides := ⟨by decide +kernel, by decide +kernel⟩
  obtain ⟨t, ht, hcarries⟩ :=
    load_precedence (some "https://env.test") (some layeredOverrides) hfile hmembers hoverrides
  refine ⟨t, ht, ?_, ?_, ?_, ?_, ?_, ?_⟩
  · exact Option.some.inj (hcarries.fields "output" "base_path" (by decide) (by decide))
  · exact Option.some.inj (hcarries.fields "output" "models_path" (by decide) (by decide))
  · exact Option.some.inj (hcarries.fields "api" "base_url" (by decide) (by decide))
  · exact Option.some.inj (hcarries.fields "api" "timeout" (by decide) (by decide))
  · exact hcarries.attributes
  · exact hcarries.models

end DartScaffold.Settings
