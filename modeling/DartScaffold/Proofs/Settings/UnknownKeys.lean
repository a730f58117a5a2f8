/-
**Keys that nothing reads.**

A layer of settings may have keys that stand neither for a section nor for the models that are left
out, and its sections may have keys that stand for no field.  What is loaded does not depend on
them: they may come and go, with whatever values.  But each of them is reported.  Section by section
the log has the keys that no field is read from, and behind them the keys beside the sections, each
once and in the order in which the layers first have it; then comes what is odd about the settings
themselves.

Keys are told apart by what they stand for, not by how they are written.  If several keys of one
object stand for the same, the last one counts, and what the others hold is not a part of the layer.

Main definitions:

* `Settings.givenFields` — the fields that a layer gives a section;
* `Settings.withoutUnknown` — the part of a layer that is read;
* `Settings.unknownNames`, `Settings.reports` — the keys of some layers that nothing reads, in
  order, and what is logged about them.

Main results:

* `Settings.keys_overlay`, `Settings.Complete.keys_fieldsIn_overlay` — the keys of layers that are
  laid over one another;
* `Settings.unknownKeys_merged` — the unknown keys of all layers together;
* `Settings.Complete.ofDocument_congr` — only fields and the models that are left out are read;
* `Settings.load_unknown` — **unknown keys change nothing and are all reported**.
-/

import Mathlib
import DartScaffold.Proofs.Occurrences
import DartScaffold.Proofs.Settings.Precedence
import DartScaffold.Proofs.Settings.Saving

set_option relaxedAutoImplicit false
set_option autoImplicit false

namespace DartScaffold.Settings

variable {document document' below above layer : List (String × Datum)}
variable {members members' overrides : List (String × Datum)}
variable {sec field name : String} {environment : Option String} {file file' d : Datum}
variable {s s' : Session}

/-! ### The sections of a layer -/

/-- The fields that a layer gives a section: those of its last member for it, as it is in the layer
in one form. -/
def givenFields (layer : List (String × Datum)) (sec : String) : List (String × Datum) :=
  match lastGiven sec layer with
  | some (.object fields) => fields
  | _ => []

/-- The fields are brought to one form with the layer. -/
theorem fieldsIn_normalizedMembers (layer : List (String × Datum)) (sec : String) :
    fieldsIn (normalizedMembers [] layer) sec = normalizedMembers [] (givenFields layer sec) := by
  have hnone : normalizedMembers [] [] = [] := by rw [normalizedMembers]
  rw [fieldsIn, givenFields, lookup_normalizedMembers]
  cases lastGiven sec layer with
  | none => exact hnone.symm
  | some d =>
      cases d with
      | object fields => rw [Option.map_some, normalized]
      | _ =>
          rw [Option.map_some, normalized_of_ne_object (by simp)]
          exact hnone.symm

theorem valueAt_eq_lookup (document : List (String × Datum)) (sec field : String) :
    valueAt document sec field = (fieldsIn document sec).lookup field := by
  rw [valueAt, fieldsIn]
  cases document.lookup sec with
  | none => rfl
  | some d => cases d <;> rfl

/-- What a layer in one form has for a field. -/
theorem valueAt_normalizedMembers (layer : List (String × Datum)) (sec field : String) :
    valueAt (normalizedMembers [] layer) sec field =
      (lastGiven field (givenFields layer sec)).map normalized := by
  rw [valueAt_eq_lookup, fieldsIn_normalizedMembers, lookup_normalizedMembers]

/-! ### The part of a layer that is read -/

/-- Whether a key stands for something that is read: a section, or the models that are left out. -/
def isRead (name : String) : Bool := isSection name || name == "excluded_models"

/-- The part of a member that is read: a section without fields that nothing reads. -/
def readPart (name : String) (d : Datum) : Datum :=
  match d with
  | .object fields =>
    if isSection name then .object (fields.filter fun f => isField name (keyName f.1)) else d
  | _ => d

/-- The part of a layer that is read.  Two layers of which this is the same differ in nothing but
keys that stand for no section, for no field of their section, and not for the models that are left
out. -/
def withoutUnknown (layer : List (String × Datum)) : List (String × Datum) :=
  (layer.filter fun m => isRead (keyName m.1)).map fun m => (m.1, readPart (keyName m.1) m.2)

theorem lastGiven_withoutUnknown (hname : isRead name = true) (layer : List (String × Datum)) :
    lastGiven name (withoutUnknown layer) = (lastGiven name layer).map (readPart name) := by
  rw [withoutUnknown, lastGiven_map readPart, lastGiven_filter hname]

theorem givenFields_withoutUnknown (hsec : isSection sec = true) (layer : List (String × Datum)) :
    givenFields (withoutUnknown layer) sec =
      (givenFields layer sec).filter fun f => isField sec (keyName f.1) := by
  have hread : isRead sec = true := by rw [isRead, hsec, Bool.true_or]
  rw [givenFields, givenFields, lastGiven_withoutUnknown hread]
  cases lastGiven sec layer with
  | none => rfl
  | some d =>
      cases d with
      | object fields => rw [Option.map_some, readPart, if_pos hsec]
      | _ => rfl

/-- A field has the same value without the keys that nothing reads. -/
theorem valueAt_withoutUnknown (hfield : isField sec field = true)
    (layer : List (String × Datum)) :
    valueAt (normalizedMembers [] (withoutUnknown layer)) sec field =
      valueAt (normalizedMembers [] layer) sec field := by
  rw [valueAt_normalizedMembers, valueAt_normalizedMembers,
    givenFields_withoutUnknown (isSection_of_isField hfield), lastGiven_filter hfield]

/-- So have the models that are left out. -/
theorem lookup_models_withoutUnknown (layer : List (String × Datum)) :
    (normalizedMembers [] (withoutUnknown layer)).lookup "excluded_models" =
      (normalizedMembers [] layer).lookup "excluded_models" := by
  have hsame : ∀ d, readPart "excluded_models" d = d := by
    intro d
    cases d <;> rfl
  rw [lookup_normalizedMembers, lookup_normalizedMembers,
    lastGiven_withoutUnknown (by decide), Option.map_congr fun d _ => hsame d, Option.map_id']

theorem isReadable_readPart (name : String) (d : Datum) :
    isReadable name (readPart name d) = isReadable name d := by
  cases d with
  | object fields =>
      rw [readPart]
      split_ifs with hsec
      · unfold isReadable
        rw [if_pos hsec, if_pos hsec]
        dsimp only
        rw [List.all_filter]
        congr 1
        funext f
        cases isField name (keyName f.1) <;> rfl
      · rfl
  | _ => rfl

/-- Whether a layer can be read is seen at the part of it that is read. -/
theorem readable_withoutUnknown : Readable (withoutUnknown layer) ↔ Readable layer := by
  constructor
  · intro h m hm
    cases hread : isRead (keyName m.1) with
    | true =>
        have hmem : (m.1, readPart (keyName m.1) m.2) ∈ withoutUnknown layer :=
          List.mem_map.2 ⟨m, List.mem_filter.2 ⟨hm, hread⟩, rfl⟩
        have hreadable := h _ hmem
        exact (isReadable_readPart _ _).symm.trans hreadable
    | false =>
        obtain ⟨hsec, hmodels⟩ := Bool.or_eq_false_iff.1 hread
        unfold isReadable
        rw [if_neg (by simp [hsec]), bne, hmodels]
        rfl
  · intro h m hm
    obtain ⟨e, he, rfl⟩ := List.mem_map.1 hm
    rw [isReadable_readPart]
    exact h e (List.mem_filter.1 he).1

/-! ### Keys of layers that are laid over one another -/

/-- The keys of the layer above come behind those of the layer below. -/
theorem keys_overlay (hbelow : (Entries.keys below).Nodup) (above : List (String × Datum)) :
    Entries.keys (overlay below above) =
      (Entries.keys below ++ Entries.keys above).eraseDups := by
  induction above generalizing below with
  | nil =>
      rw [overlay_nil]
      exact ((congrArg _ (List.append_nil _)).trans (eraseDups_of_nodup hbelow)).symm
  | cons m above ih =>
      obtain ⟨key, d⟩ := m
      have hput : Entries.keys (Entries.put key (overlayValue (below.lookup key) d) below) =
          (Entries.keys below ++ [key]).eraseDups := by
        rw [Entries.keys_put, eraseDups_append_singleton, eraseDups_of_nodup hbelow]
      rw [overlay, ih (Entries.nodup_keys_put _ _ hbelow), hput, eraseDups_eraseDups_append,
        List.append_assoc]
      rfl

theorem nodup_keys_overlay (hbelow : (Entries.keys below).Nodup) (above : List (String × Datum)) :
    (Entries.keys (overlay below above)).Nodup :=
  keys_overlay hbelow above ▸ nodup_eraseDups _

/-- So it is in each section. -/
theorem Complete.keys_fieldsIn_overlay (h : Complete below) (ha : Proper above)
    (hsec : isSection sec = true) (hfields : (Entries.keys (fieldsIn below sec)).Nodup) :
    Entries.keys (fieldsIn (Settings.overlay below above) sec) =
      (Entries.keys (fieldsIn below sec) ++ Entries.keys (fieldsIn above sec)).eraseDups := by
  obtain ⟨under, hunder, ⟨habove, hresult⟩ | ⟨fields, habove, -, -, hresult⟩⟩ :=
    h.lookup_overlay_section ha hsec
  · rw [fieldsIn, hunder] at hfields
    rw [fieldsIn, fieldsIn, fieldsIn, hresult, hunder, habove]
    exact ((congrArg _ (List.append_nil _)).trans (eraseDups_of_nodup hfields)).symm
  · rw [fieldsIn, hunder] at hfields
    rw [fieldsIn, fieldsIn, fieldsIn, hresult, hunder, habove]
    exact keys_overlay hfields fields

theorem Complete.nodup_fieldsIn_overlay (h : Complete below) (ha : Proper above)
    (hsec : isSection sec = true) (hfields : (Entries.keys (fieldsIn below sec)).Nodup) :
    (Entries.keys (fieldsIn (Settings.overlay below above) sec)).Nodup :=
  h.keys_fieldsIn_overlay ha hsec hfields ▸ nodup_eraseDups _

/-! ### Unknown keys -/

/-- The keys inside a section of a document that no field is read from. -/
def unknownFields (document : List (String × Datum)) (sec : String) : List String :=
  (Entries.keys (fieldsIn document sec)).filter fun name => !isField sec name

/-- The keys inside a section of some layers that stand for none of its fields, each once. -/
def unknownIn (layers : List (List (String × Datum))) (sec : String) : List String :=
  ((layers.flatMap fun layer => keyNames (givenFields layer sec)).filter
    fun name => !isField sec name).eraseDups

/-- The keys of some layers that stand neither for a section nor for the models that are left out,
each once. -/
def unknownAtTop (layers : List (List (String × Datum))) : List String :=
  ((layers.flatMap keyNames).filter fun name => !isRead name).eraseDups

/-- The keys of some layers that nothing reads: those inside the sections, section by section, and
those beside them. -/
def unknownNames (layers : List (List (String × Datum))) : List String :=
  (sections.flatMap fun row => (unknownIn layers row.1).map fun name => row.1 ++ "." ++ name) ++
    unknownAtTop layers

/-- The keys of a document that nothing reads, key by key. -/
theorem unknownKeys_eq_flatMap (h : (Entries.keys document).Nodup) :
    unknownKeys document = (Entries.keys document).flatMap fun key =>
      if isSection key then (unknownFields document key).map fun name => key ++ "." ++ name
      else if key = "excluded_models" then [] else [key] := by
  rw [unknownKeys, Entries.keys, List.flatMap_map]
  refine List.flatMap_congr fun m hm => ?_
  obtain ⟨key, d⟩ := m
  have hlookup : document.lookup key = some d := Entries.lookup_of_mem h hm
  dsimp only
  cases hsec : isSection key with
  | false => rfl
  | true =>
      rw [unknownFields, fieldsIn, hlookup]
      cases d with
      | object fields =>
          dsimp only
          rw [Entries.keys, List.filter_map, List.map_map]
          simp only [isField, Function.comp_def, Bool.not_true, Bool.false_eq_true, if_false,
            if_true, Option.not_isSome]
      | _ => rfl

/-- Laying a layer over a document adds its unknown keys. -/
theorem Complete.unknownFields_overlay (h : Complete below) (ha : Proper above)
    (hsec : isSection sec = true) (hfields : (Entries.keys (fieldsIn below sec)).Nodup) :
    unknownFields (Settings.overlay below above) sec =
      (unknownFields below sec ++ unknownFields above sec).eraseDups := by
  rw [unknownFields, h.keys_fieldsIn_overlay ha hsec hfields, filter_eraseDups,
    List.filter_append]
  rfl

theorem unknownFields_normalizedMembers (layer : List (String × Datum)) (sec : String) :
    unknownFields (normalizedMembers [] layer) sec =
      ((keyNames (givenFields layer sec)).filter fun name => !isField sec name).eraseDups := by
  rw [unknownFields, fieldsIn_normalizedMembers, keys_normalizedMembers, filter_eraseDups]

/-! ### All layers together -/

theorem fieldsIn_usual (hsec : isSection sec = true) : fieldsIn usual sec = fieldsOf sec := by
  rw [fieldsIn, lookup_usual hsec]

theorem nodup_keys_usual : (Entries.keys usual).Nodup := by
  decide

theorem nodup_fieldsIn_usual (hsec : isSection sec = true) :
    (Entries.keys (fieldsIn usual sec)).Nodup := by
  obtain ⟨fields, hfields⟩ := Option.isSome_iff_exists.1 hsec
  have hmem : (sec, fields) ∈ sections := Entries.mem_of_lookup hfields
  rw [fieldsIn_usual hsec, fieldsOf, hfields]
  exact (keyName_sections _ hmem).2.2.2

/-- The usual document has no unknown keys. -/
theorem unknownFields_usual (hsec : isSection sec = true) : unknownFields usual sec = [] := by
  rw [unknownFields, fieldsIn_usual hsec, List.filter_eq_nil_iff]
  intro name hname
  obtain ⟨f, hf, rfl⟩ := List.mem_map.1 hname
  obtain ⟨fields, hfields⟩ := Option.isSome_iff_exists.1 hsec
  have hmem : (sec, fields) ∈ sections := Entries.mem_of_lookup hfields
  rw [fieldsOf, hfields] at hf
  rw [isField_of_mem_sections _ hmem f hf]
  decide

/-- Nor has the environment. -/
theorem unknownFields_environmentLayer (environment : Option String) (sec : String) :
    unknownFields (environmentLayer (environment.elim .null .text)) sec = [] := by
  rw [unknownFields, fieldsIn, environmentLayer_eq]
  cases environment.filter (· ≠ "") with
  | none => rfl
  | some address =>
      rw [Option.elim_some, lookup_singleton]
      by_cases hsec : sec = "api"
      · subst hsec
        rfl
      · rw [if_neg hsec]
        rfl

theorem filter_keys_environmentLayer (environment : Option String) :
    (Entries.keys (environmentLayer (environment.elim .null .text))).filter
      (fun name => !isRead name) = [] := by
  rw [environmentLayer_eq]
  cases environment.filter (· ≠ "") <;> rfl

/-- What nothing reads inside a section. -/
theorem unknownFields_merged (environment : Option String) (hm : Readable members)
    (ho : Readable overrides) (hsec : isSection sec = true) :
    unknownFields (merged environment members overrides) sec =
      unknownIn [members, overrides] sec := by
  have henvironment := proper_environmentLayer environment
  have hbase := complete_usual.overlay henvironment
  have husual := nodup_fieldsIn_usual hsec
  have hbelow := complete_usual.nodup_fieldsIn_overlay henvironment hsec husual
  have hfile := hbase.nodup_fieldsIn_overlay hm.proper hsec hbelow
  rw [merged, (hbase.overlay hm.proper).unknownFields_overlay ho.proper hsec hfile,
    hbase.unknownFields_overlay hm.proper hsec hbelow,
    complete_usual.unknownFields_overlay henvironment hsec husual,
    unknownFields_usual hsec, unknownFields_environmentLayer, unknownFields_normalizedMembers,
    unknownFields_normalizedMembers, unknownIn]
  simp only [List.flatMap_cons, List.flatMap_nil, List.append_nil, List.nil_append,
    List.eraseDups_nil, List.filter_append, eraseDups_eraseDups_append,
    eraseDups_append_eraseDups]

/-- What is read at the top are the keys of the usual document. -/
theorem isRead_iff (name : String) : isRead name = true ↔ name ∈ Entries.keys usual := by
  have hkeys : Entries.keys usual =
    ["output", "api", "generation", "model_analysis", "templates"] ++ ["excluded_models"] := rfl
  rw [hkeys, List.mem_append, List.mem_singleton, isRead, Bool.or_eq_true, isSection_iff,
    beq_iff_eq]

theorem removeAll_keys_usual (names : List String) :
    names.removeAll (Entries.keys usual) = names.filter fun name => !isRead name := by
  refine List.filter_congr fun name _ => congrArg not ?_
  rw [Bool.eq_iff_iff, List.elem_iff, isRead_iff]

/-- The keys of all layers: the usual ones, and behind them those that nothing reads. -/
theorem keys_merged (environment : Option String) (members overrides : List (String × Datum)) :
    Entries.keys (merged environment members overrides) =
      Entries.keys usual ++ unknownAtTop [members, overrides] := by
  have hbase := nodup_keys_overlay nodup_keys_usual
    (environmentLayer (environment.elim .null .text))
  have hall : Entries.keys (merged environment members overrides) =
      (Entries.keys usual ++ (Entries.keys (environmentLayer (environment.elim .null .text)) ++
        (keyNames members ++ keyNames overrides))).eraseDups := by
    rw [merged, keys_overlay (nodup_keys_overlay hbase _), keys_overlay hbase,
      keys_overlay nodup_keys_usual, keys_normalizedMembers, keys_normalizedMembers]
    simp only [eraseDups_eraseDups_append, eraseDups_append_eraseDups, List.append_assoc]
  rw [hall, List.eraseDups_append, eraseDups_of_nodup nodup_keys_usual, removeAll_keys_usual,
    List.filter_append, filter_keys_environmentLayer, unknownAtTop]
  simp only [List.flatMap_cons, List.flatMap_nil, List.append_nil, List.nil_append]

theorem nodup_keys_merged (environment : Option String)
    (members overrides : List (String × Datum)) :
    (Entries.keys (merged environment members overrides)).Nodup :=
  nodup_keys_overlay (nodup_keys_overlay (nodup_keys_overlay nodup_keys_usual _) _) _

/-- **The unknown keys of all layers together** are those of the file and the overrides. -/
theorem unknownKeys_merged (environment : Option String) (hm : Readable members)
    (ho : Readable overrides) :
    unknownKeys (merged environment members overrides) = unknownNames [members, overrides] := by
  have husual : Entries.keys usual = sections.map Prod.fst ++ ["excluded_models"] := rfl
  rw [unknownKeys_eq_flatMap (nodup_keys_merged environment members overrides), keys_merged, husual,
    List.flatMap_append, List.flatMap_append, List.flatMap_map, unknownNames]
  congr 1
  · -- What is read: the sections with what is unknown in them, and the models that are left out.
    have hmodels : isSection "excluded_models" = false := by decide
    rw [List.flatMap_singleton, if_neg (by simp [hmodels]), if_pos rfl, List.append_nil]
    refine List.flatMap_congr fun row hrow => ?_
    have hsec : isSection row.1 = true := (keyName_sections row hrow).2.1
    rw [if_pos hsec, unknownFields_merged environment hm ho hsec]
  · -- What is unknown beside them.
    refine (List.flatMap_congr fun name hname => ?_).trans (List.flatMap_singleton' _)
    obtain ⟨hsec, hmodels⟩ : isSection name = false ∧ name ≠ "excluded_models" := by
      have := (List.mem_filter.1 (List.mem_eraseDups.1 hname)).2
      simpa [isRead] using this
    rw [if_neg (by simp [hsec]), if_neg hmodels]

/-! ### What is read -/

/-- **Only fields and the models that are left out are read.** -/
theorem Complete.ofDocument_congr (h : Complete document) (h' : Complete document')
    (hvalue : ∀ sec field, isField sec field = true →
      valueAt document' sec field = valueAt document sec field)
    (hmodels : document'.lookup "excluded_models" = document.lookup "excluded_models") :
    ofDocument document' = ofDocument document := by
  have hfields : ∀ sec field, isField sec field = true →
      fieldIn sec (fieldsIn document' sec) field = fieldIn sec (fieldsIn document sec) field := by
    intro sec field hfield
    have hsame := hvalue sec field hfield
    rw [h'.valueAt_eq hfield, h.valueAt_eq hfield] at hsame
    exact Option.some.inj hsame
  have hexcluded : isField "model_analysis" "excluded_attributes" = true := by decide
  obtain ⟨found, hfound, -, -⟩ := exists_elementsOrNone (h.admits hexcluded)
  obtain ⟨t, ht, hvalues, hcolumns, hnames⟩ := h.exists_fieldValues hfound
  rw [← hfields _ _ hexcluded] at hfound
  obtain ⟨t', ht', hvalues', hcolumns', hnames'⟩ := h'.exists_fieldValues hfound
  have htable : t'.fieldValues = t.fieldValues := by
    rw [hvalues', hvalues]
    exact tableOf_congr fun sec field hfield _ => hfields sec field hfield
  have hsame := eq_withColumns htable (by rw [hnames', hnames, hmodels])
  rw [hcolumns', ← hcolumns] at hsame
  obtain rfl : t' = t := hsame
  rw [ht, ht']

/-- All layers come to the same settings without the keys that nothing reads. -/
theorem Readable.ofDocument_withoutUnknown (environment : Option String) (hm : Readable members)
    (ho : Readable overrides) :
    ofDocument (merged environment (withoutUnknown members) (withoutUnknown overrides)) =
      ofDocument (merged environment members overrides) := by
  have hm' := readable_withoutUnknown.2 hm
  have ho' := readable_withoutUnknown.2 ho
  have hbase := complete_usual.overlay (proper_environmentLayer environment)
  refine (hm.complete_merged environment ho).ofDocument_congr (hm'.complete_merged environment ho')
    (fun sec field hfield => ?_) ?_
  · rw [merged, merged, (hbase.overlay hm'.proper).valueAt_overlay ho'.proper hfield,
      (hbase.overlay hm.proper).valueAt_overlay ho.proper hfield,
      hbase.valueAt_overlay hm'.proper hfield, hbase.valueAt_overlay hm.proper hfield,
      valueAt_withoutUnknown hfield, valueAt_withoutUnknown hfield]
  · rw [merged, merged, lookup_overlay_models ho'.proper, lookup_overlay_models ho.proper,
      lookup_overlay_models hm'.proper, lookup_overlay_models hm.proper,
      lookup_models_withoutUnknown, lookup_models_withoutUnknown]

/-! ### Loading -/

/-- What is logged about the keys of some layers that nothing reads. -/
def reports (layers : List (List (String × Datum))) : List String :=
  (unknownNames layers).map fun name => "Unknown configuration key: " ++ name

/-- Loading settings, with what is logged. -/
theorem Readable.load_run (hm : Readable members) {overrides : Option (List (String × Datum))}
    (ho : Readable (overrides.getD [])) (environment : Option String)
    (hfile : FileHolds s.tree file members) :
    ∃ (t : Settings) (odd : List String),
      ofDocument (merged environment members (overrides.getD [])) =
        .ok (t, .text t.templates.extension) ∧
      valueWarnings t (.text t.templates.extension) = .ok odd ∧
      (load (environment.elim .null .text) file (overrides.elim .null .object)).run.run s =
        (.ok t, s.warned (reports [members, overrides.getD []] ++ odd)) := by
  have hcomplete := hm.complete_merged environment ho
  obtain ⟨t, ht, hcarries⟩ := hcomplete.exists_ofDocument
  have hauth : isField "api" "auth_type" = true := by decide
  have harchitecture : isField "generation" "architecture" = true := by decide
  obtain ⟨texts, htexts⟩ := exists_warnings (hcomplete.hashable hcarries hauth rfl rfl)
    (hcomplete.hashable hcarries harchitecture rfl rfl) t.templates.extension
    (merged environment members (overrides.getD []))
  have hload := load_run_warned hfile rfl ht htexts
  obtain ⟨odd, hodd, htexts⟩ := exists_of_bind_eq_ok htexts
  rw [unknownKeys_merged environment hm ho] at htexts
  obtain rfl := Except.ok.inj htexts
  exact ⟨t, odd, ht, hodd, hload⟩

/-- **Unknown keys change nothing and are all reported.**  Layers that differ in nothing but keys
that nothing reads give the same settings; what is logged are the keys of these layers that nothing
reads, each once and in order, and then what is odd about the settings. -/
theorem load_unknown (environment : Option String)
    (overrides overrides' : Option (List (String × Datum)))
    (hfile : FileHolds s.tree file members) (hfile' : FileHolds s'.tree file' members')
    (hm : Readable members) (ho : Readable (overrides.getD []))
    (hmembers : withoutUnknown members' = withoutUnknown members)
    (hoverrides : withoutUnknown (overrides'.getD []) = withoutUnknown (overrides.getD [])) :
    ∃ (t : Settings) (odd : List String),
      valueWarnings t (.text t.templates.extension) = .ok odd ∧
      (load (environment.elim .null .text) file (overrides.elim .null .object)).run.run s =
        (.ok t, s.warned (reports [members, overrides.getD []] ++ odd)) ∧
      (load (environment.elim .null .text) file' (overrides'.elim .null .object)).run.run s' =
        (.ok t, s'.warned (reports [members', overrides'.getD []] ++ odd)) := by
  have hm' : Readable members' := by
    rwa [← readable_withoutUnknown, hmembers, readable_withoutUnknown]
  have ho' : Readable (overrides'.getD []) := by
    rwa [← readable_withoutUnknown, hoverrides, readable_withoutUnknown]
  obtain ⟨t, odd, ht, hodd, hload⟩ := hm.load_run ho environment hfile
  obtain ⟨t', odd', ht', hodd', hload'⟩ := hm'.load_run ho' environment hfile'
  rw [← hm'.ofDocument_withoutUnknown environment ho', hmembers, hoverrides,
    hm.ofDocument_withoutUnknown environment ho, ht] at ht'
  obtain ⟨rfl, -⟩ := Prod.mk.inj (Except.ok.inj ht')
  obtain rfl : odd = odd' := Except.ok.inj (hodd.symm.trans hodd')
  exact ⟨t, odd, hodd, hload, hload'⟩

/-- A file with keys that nothing reads. -/
def crowdedText : String :=
  "\x7b\"output\": \x7b\"basePath\": \"lib\", \"colour\": \x7b\"red\": 1\x7d\x7d, " ++
    "\"bogusKey\": [], \"api\": \x7b\"retries\": 3, \"authType\": \"oauth\"\x7d\x7d"

/-- The members of the object in it. -/
def crowdedMembers : List (String × Datum) := [
  ("output", .object [("basePath", .text "lib"), ("colour", .object [("red", .int 1)])]),
  ("bogusKey", .list []), ("api", .object [("retries", .int 3), ("authType", .text "oauth")])]

/-- Overrides with such keys, of which two are in the file under another spelling. -/
def crowdedOverrides : List (String × Datum) := [
  ("bogus_key", .int 1), ("api", .object [("timeout", .int 5), ("backOff", .null),
    ("Retries", .object [("first", .int 2)])])]

/-- The file without them. -/
def plainText : String :=
  "\x7b\"output\": \x7b\"basePath\": \"lib\"\x7d, \"api\": \x7b\"authType\": \"oauth\"\x7d\x7d"

/-- The members of the object in it. -/
def plainMembers : List (String × Datum) :=
  [("output", .object [("basePath", .text "lib")]), ("api", .object [("authType", .text "oauth")])]

/-- The overrides without them. -/
def plainOverrides : List (String × Datum) := [("api", .object [("timeout", .int 5)])]

/-- A session with a file. -/
def sessionWith (text : String) : Session :=
  .start (.ofContents [("codegen.json", some (.text text))]) [] Web.unreachable

/-- The keys are reported in order, and without them the settings are the same. -/
theorem load_unknown_crowded : ∃ (t : Settings) (odd : List String),
    valueWarnings t (.text t.templates.extension) = .ok odd ∧
    (load .null (.text "codegen.json") (.object crowdedOverrides)).run.run
      (sessionWith crowdedText) = (.ok t, (sessionWith crowdedText).warned ([
        "Unknown configuration key: output.colour", "Unknown configuration key: api.retries",
        "Unknown configuration key: api.back_off", "Unknown configuration key: bogus_key"] ++
          odd)) ∧
    (load .null (.text "codegen.json") (.object plainOverrides)).run.run (sessionWith plainText) =
      (.ok t, (sessionWith plainText).warned odd) := by
  have hcrowded : FileHolds (sessionWith crowdedText).tree (.text "codegen.json") crowdedMembers :=
    .json (show (sessionWith crowdedText).tree.read (Path.ofString "codegen.json") =
        .ok (.text crowdedText) by decide +kernel) (by decide +kernel)
      (show (FileTree.Content.text crowdedText).lineText = .ok crowdedText by cbv) (by cbv)
  have hplain : FileHolds (sessionWith plainText).tree (.text "codegen.json") plainMembers :=
    .json (show (sessionWith plainText).tree.read (Path.ofString "codegen.json") =
        .ok (.text plainText) by decide +kernel) (by decide +kernel)
      (show (FileTree.Content.text plainText).lineText = .ok plainText by cbv) (by cbv)
  have hcrowdedNames : reports [crowdedMembers, crowdedOverrides] = [
      "Unknown configuration key: output.colour", "Unknown configuration key: api.retries",
      "Unknown configuration key: api.back_off", "Unknown configuration key: bogus_key"] := by
    decide +kernel
  have hplainNames : reports [plainMembers, plainOverrides] = [] := by decide +kernel
  have hload := load_unknown none (some crowdedOverrides) (some plainOverrides) hcrowded hplain
    (show Readable crowdedMembers by decide +kernel)
    (show Readable crowdedOverrides by decide +kernel)
    (show withoutUnknown plainMembers = withoutUnknown crowdedMembers by cbv)
    (show withoutUnknown plainOverrides = withoutUnknown crowdedOverrides by cbv)
  simp only [Option.getD_some, hcrowdedNames, hplainNames] at hload
  exact hload

end DartScaffold.Settings
