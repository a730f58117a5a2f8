/-
**Layers of settings, field by field.**

A layer is a document whose keys may be written in several ways.  It sets a field of a section if it
has the section and this has the field, whichever way the keys are written.  When keys are brought
to one form and the layer is laid over the document below, every field that the layer sets has its
value from then on, and all other fields keep theirs: sections are merged member by member, and what
a field holds is never merged.  This is so for layers whose sections are objects and whose fields
hold what they may; members that no field reads may be anything.  If several keys of one object
stand for the same name, the last one counts.

Main definitions:

* `Settings.FieldKind`, `Settings.kindOf` — what a field may hold;
* `Settings.given`, `Settings.lastGiven`, `Settings.givenIn` — what a layer sets;
* `Settings.Readable` — a layer whose sections and fields can be read;
* `Settings.WellTyped` — such a layer that has no key twice;
* `Settings.valueAt` — what a document in one form has for a field;
* `Settings.Proper`, `Settings.Complete` — a layer in one form, and a document with all fields.

Main results:

* `Settings.keys_normalizedMembers`, `Settings.lookup_normalizedMembers` — members in one form;
* `Settings.Readable.proper`, `Settings.WellTyped.valueAt_normalizedMembers` — a layer brought to
  one form, and what it has for a field;
* `Settings.lookup_overlay` — what one layer laid over another has under a key;
* `Settings.Complete.overlay`, `Settings.Complete.valueAt_overlay` — **laying over, field by
  field**.
-/

import DartScaffold.Proofs.Occurrences
import DartScaffold.Proofs.Routing.ManifestEntry
import DartScaffold.Settings.Layers

set_option relaxedAutoImplicit false
set_option autoImplicit false

namespace DartScaffold.Settings

variable {below above layer members : List (String × Datum)} {sec field name : String} {d : Datum}

/-! ### What a field may hold -/

/-- What a field may hold. -/
inductive FieldKind where
  /-- Any value but a list or an object. -/
  | plain
  /-- A text. -/
  | text
  /-- A list of texts, or nothing. -/
  | texts
deriving DecidableEq, Repr

/-- Whether a field of a kind may hold a value. -/
def FieldKind.admits : FieldKind → Datum → Bool
  | .plain, .list _ => false
  | .plain, .object _ => false
  | .plain, _ => true
  | .text, d => Backend.isText d
  | .texts, .null => true
  | .texts, d => Backend.isTexts d

/-- The kind of a field of a section. -/
def kindOf (sec field : String) : FieldKind :=
  if sec = "model_analysis" ∧ field = "excluded_attributes" then .texts
  else if sec = "templates" ∧ field = "extension" then .text
  else .plain

/-- Whether a section has a field of this name. -/
def isField (sec field : String) : Bool := ((fieldsOf sec).lookup field).isSome

/-- No field holds an object. -/
theorem FieldKind.ne_object {kind : FieldKind} {d : Datum} (h : kind.admits d = true)
    (members : List (String × Datum)) : d ≠ .object members := by
  rintro rfl
  cases kind <;> cases h

/-- Only sections have fields. -/
theorem isSection_of_isField (h : isField sec field = true) : isSection sec = true := by
  unfold isField fieldsOf at h
  unfold isSection
  cases hsec : sections.lookup sec with
  | some fields => rfl
  | none =>
      rw [hsec] at h
      cases h

/-! ### What a layer sets -/

/-- What members were given for a name, whichever way its key is written. -/
def given (name : String) (members : List (String × Datum)) : Option Datum :=
  (members.find? fun m => keyName m.1 == name).map Prod.snd

/-- What members were last given for a name, whichever way its key is written. -/
def lastGiven (name : String) (members : List (String × Datum)) : Option Datum :=
  given name members.reverse

/-- What a layer sets a field of a section to. -/
def givenIn (layer : List (String × Datum)) (sec field : String) : Option Datum :=
  match given sec layer with
  | some (.object fields) => given field fields
  | _ => none

/-- What was given for a name is a member under a key for it. -/
theorem mem_of_given {name : String} {members : List (String × Datum)} {d : Datum}
    (h : given name members = some d) : ∃ key, keyName key = name ∧ (key, d) ∈ members := by
  obtain ⟨⟨key, v⟩, hfind, rfl⟩ := Option.map_eq_some_iff.1 h
  exact ⟨key, by simpa using List.find?_some hfind, List.mem_of_find?_eq_some hfind⟩

theorem given_eq_lookup_map (name : String) (members : List (String × Datum)) :
    given name members = (members.map fun m => (keyName m.1, m.2)).lookup name := by
  unfold given
  induction members with
  | nil => rfl
  | cons m members ih =>
      rw [List.find?_cons, List.map_cons, List.lookup_cons, ← ih, Bool.beq_comm]
      cases name == keyName m.1 <;> rfl

theorem lastGiven_eq_lookup (name : String) (members : List (String × Datum)) :
    lastGiven name members = (members.map fun m => (keyName m.1, m.2)).reverse.lookup name := by
  rw [lastGiven, given_eq_lookup_map, List.map_reverse]

theorem mem_of_lastGiven (h : lastGiven name members = some d) :
    ∃ key, keyName key = name ∧ (key, d) ∈ members := by
  obtain ⟨key, hkey, hmem⟩ := mem_of_given h
  exact ⟨key, hkey, List.mem_reverse.1 hmem⟩

/-- Leaving out keys for other names changes nothing. -/
theorem lastGiven_filter {p : String → Bool} (hp : p name = true)
    (members : List (String × Datum)) :
    lastGiven name (members.filter fun m => p (keyName m.1)) = lastGiven name members := by
  have hfilter : (members.filter fun m => p (keyName m.1)).map (fun m => (keyName m.1, m.2)) =
      (members.map fun m => (keyName m.1, m.2)).filter fun e => p e.1 := by
    rw [List.filter_map]
    rfl
  rw [lastGiven_eq_lookup, lastGiven_eq_lookup, hfilter, ← List.filter_reverse,
    Entries.lookup_filter, if_pos hp]

/-- What is last given when each value is replaced by another one. -/
theorem lastGiven_map (f : String → Datum → Datum) (name : String)
    (members : List (String × Datum)) :
    lastGiven name (members.map fun m => (m.1, f (keyName m.1) m.2)) =
      (lastGiven name members).map (f name) := by
  have hmap : (members.map fun m => (m.1, f (keyName m.1) m.2)).map (fun m => (keyName m.1, m.2)) =
      (members.map fun m => (keyName m.1, m.2)).map fun e => (e.1, f e.1 e.2) := by
    rw [List.map_map, List.map_map]
    rfl
  rw [lastGiven_eq_lookup, lastGiven_eq_lookup, hmap, ← List.map_reverse, Entries.lookup_map]

/-! ### Keys in one form -/

/-- The names that the keys of some members stand for. -/
def keyNames (members : List (String × Datum)) : List String := members.map fun m => keyName m.1

/-- Bringing keys to one form is writing the members one after another. -/
theorem normalizedMembers_eq_ofPairs (members : List (String × Datum)) :
    normalizedMembers [] members =
      Entries.ofPairs (members.map fun m => (keyName m.1, normalized m.2)) := by
  rw [Entries.ofPairs]
  generalize ([] : List (String × Datum)) = read
  induction members generalizing read with
  | nil => rw [normalizedMembers]; rfl
  | cons m members ih =>
      obtain ⟨key, d⟩ := m
      rw [normalizedMembers, ih]
      rfl

/-- In one form, a layer has each name once. -/
theorem keys_normalizedMembers (members : List (String × Datum)) :
    Entries.keys (normalizedMembers [] members) = (keyNames members).eraseDups := by
  rw [normalizedMembers_eq_ofPairs, Entries.keys_ofPairs, Entries.keys, List.map_map]
  rfl

/-- And under it what it was last given. -/
theorem lookup_normalizedMembers (members : List (String × Datum)) (name : String) :
    (normalizedMembers [] members).lookup name = (lastGiven name members).map normalized := by
  have hmap : members.map (fun m => (keyName m.1, normalized m.2)) =
      (members.map fun m => (keyName m.1, m.2)).map fun e => (e.1, normalized e.2) := by
    rw [List.map_map]
    rfl
  rw [normalizedMembers_eq_ofPairs, Entries.lookup_ofPairs, hmap, ← List.map_reverse,
    Entries.lookup_map fun _ => normalized, lastGiven_eq_lookup]

/-- A value that is no object is in one form. -/
theorem normalized_of_ne_object {d : Datum} (h : ∀ members, d ≠ .object members) :
    normalized d = d := by
  cases d with
  | object members => exact absurd rfl (h members)
  | _ => rw [normalized]; exact h

/-! ### Documents in one form -/

/-- What a document has for a field of a section. -/
def valueAt (document : List (String × Datum)) (sec field : String) : Option Datum :=
  (document.lookup sec).bind (Datum.member? field)

/-- A section of a layer in one form: an object that has no key twice and whose fields hold what
they may. -/
def ProperSection (sec : String) (d : Datum) : Prop :=
  ∃ fields, d = .object fields ∧ (Entries.keys fields).Nodup ∧
    ∀ field v, isField sec field = true → fields.lookup field = some v →
      (kindOf sec field).admits v = true

/-- A layer in one form that can be read. -/
structure Proper (layer : List (String × Datum)) : Prop where
  keys : (Entries.keys layer).Nodup
  sections : ∀ sec d, isSection sec = true → layer.lookup sec = some d → ProperSection sec d
  models : ∀ d, layer.lookup "excluded_models" = some d → FieldKind.texts.admits d = true

/-- A document in one form that has all fields, with values that they may hold. -/
structure Complete (document : List (String × Datum)) : Prop where
  sections : ∀ sec, isSection sec = true → ∃ fields, document.lookup sec = some (.object fields)
  fields : ∀ sec field, isField sec field = true →
    ∃ d, valueAt document sec field = some d ∧ (kindOf sec field).admits d = true
  models : ∃ d, document.lookup "excluded_models" = some d ∧ FieldKind.texts.admits d = true

/-! ### Layers that can be read -/

/-- Whether a member can be read: a section is an object whose fields hold what they may, and models
are left out by their names. -/
def isReadable (name : String) (d : Datum) : Bool :=
  if isSection name then
    match d with
    | .object fields =>
      fields.all fun f => !isField name (keyName f.1) || (kindOf name (keyName f.1)).admits f.2
    | _ => false
  else name != "excluded_models" || FieldKind.texts.admits d

/-- A layer whose members can be read, however often and in whichever way it has a key. -/
def Readable (layer : List (String × Datum)) : Prop :=
  ∀ m ∈ layer, isReadable (keyName m.1) m.2 = true

instance (layer : List (String × Datum)) : Decidable (Readable layer) :=
  inferInstanceAs (Decidable (∀ m ∈ layer, isReadable (keyName m.1) m.2 = true))

theorem isReadable_section (hsec : isSection sec = true) (h : isReadable sec d = true) :
    ∃ fields, d = .object fields ∧ ∀ f ∈ fields, isField sec (keyName f.1) = true →
      (kindOf sec (keyName f.1)).admits f.2 = true := by
  unfold isReadable at h
  rw [if_pos hsec] at h
  split at h
  · rename_i fields
    refine ⟨fields, rfl, fun f hf hfield => ?_⟩
    have := List.all_eq_true.1 h f hf
    rwa [hfield, Bool.not_true, Bool.false_or] at this
  · cases h

theorem isReadable_models (h : isReadable "excluded_models" d = true) :
    FieldKind.texts.admits d = true := by
  have hsec : isSection "excluded_models" = false := by decide
  simpa [isReadable, hsec] using h

theorem Readable.isReadable_of_lastGiven (h : Readable layer) (hd : lastGiven name layer = some d) :
    isReadable name d = true := by
  obtain ⟨key, hkey, hmem⟩ := mem_of_lastGiven hd
  have hreadable := h _ hmem
  rwa [hkey] at hreadable

/-- What is last given for a field of a section that can be read. -/
theorem admits_of_lastGiven {fields : List (String × Datum)} {v : Datum}
    (h : ∀ f ∈ fields, isField sec (keyName f.1) = true →
      (kindOf sec (keyName f.1)).admits f.2 = true)
    (hfield : isField sec field = true) (hv : lastGiven field fields = some v) :
    (kindOf sec field).admits v = true := by
  obtain ⟨key, hkey, hmem⟩ := mem_of_lastGiven hv
  have hadmits := h _ hmem
  rw [hkey] at hadmits
  exact hadmits hfield

/-- What a section in one form has for a field is what was last given for it. -/
theorem lookup_normalizedMembers_field {fields : List (String × Datum)}
    (h : ∀ f ∈ fields, isField sec (keyName f.1) = true →
      (kindOf sec (keyName f.1)).admits f.2 = true)
    (hfield : isField sec field = true) :
    (normalizedMembers [] fields).lookup field = lastGiven field fields := by
  rw [lookup_normalizedMembers]
  cases hv : lastGiven field fields with
  | none => rfl
  | some v =>
      rw [Option.map_some,
        normalized_of_ne_object (FieldKind.ne_object (admits_of_lastGiven h hfield hv))]

/-- Brought to one form, a layer leaves out the models that it names last. -/
theorem Readable.lookup_models (h : Readable layer) :
    (normalizedMembers [] layer).lookup "excluded_models" = lastGiven "excluded_models" layer := by
  rw [lookup_normalizedMembers]
  cases hd : lastGiven "excluded_models" layer with
  | none => rfl
  | some d =>
      have hadmits := isReadable_models (h.isReadable_of_lastGiven hd)
      rw [Option.map_some, normalized_of_ne_object (FieldKind.ne_object hadmits)]

/-- **A layer that can be read, brought to one form.** -/
theorem Readable.proper (h : Readable layer) : Proper (normalizedMembers [] layer) where
  keys := keys_normalizedMembers layer ▸ nodup_eraseDups _
  sections := by
    intro sec d hsec hd
    rw [lookup_normalizedMembers] at hd
    obtain ⟨e, he, rfl⟩ := Option.map_eq_some_iff.1 hd
    obtain ⟨fields, rfl, hfields⟩ := isReadable_section hsec (h.isReadable_of_lastGiven he)
    refine ⟨normalizedMembers [] fields, by rw [normalized],
      keys_normalizedMembers fields ▸ nodup_eraseDups _, fun field v hfield hv => ?_⟩
    rw [lookup_normalizedMembers_field hfields hfield] at hv
    exact admits_of_lastGiven hfields hfield hv
  models := by
    intro d hd
    rw [h.lookup_models] at hd
    exact isReadable_models (h.isReadable_of_lastGiven hd)

/-! ### Layers that have no key twice -/

/-- Whether a member of a layer can be read: a section is an object that has no key twice and whose
fields hold what they may, and models are left out by their names. -/
def isTyped (name : String) (d : Datum) : Bool :=
  if isSection name then
    match d with
    | .object fields =>
      decide (fields.map fun f => keyName f.1).Nodup &&
        fields.all fun f =>
          !isField name (keyName f.1) || (kindOf name (keyName f.1)).admits f.2
    | _ => false
  else name != "excluded_models" || FieldKind.texts.admits d

/-- A layer that can be read: it has no key twice, however written, and its members can be read. -/
structure WellTyped (layer : List (String × Datum)) : Prop where
  keys : (layer.map fun m => keyName m.1).Nodup
  members : ∀ m ∈ layer, isTyped (keyName m.1) m.2 = true

theorem wellTyped_nil : WellTyped [] := ⟨List.nodup_nil, by simp⟩

theorem isReadable_of_isTyped (h : isTyped name d = true) : isReadable name d = true := by
  unfold isTyped at h
  unfold isReadable
  split_ifs at h ⊢ with hsec
  · split at h
    · exact (Bool.and_eq_true_iff.1 h).2
    · cases h
  · exact h

theorem WellTyped.readable (h : WellTyped layer) : Readable layer := fun m hm =>
  isReadable_of_isTyped (h.members m hm)

theorem WellTyped.proper (h : WellTyped layer) : Proper (normalizedMembers [] layer) :=
  h.readable.proper

theorem isTyped_section (hsec : isSection sec = true) (h : isTyped sec d = true) :
    ∃ fields, d = .object fields ∧ (keyNames fields).Nodup ∧
      ∀ f ∈ fields, isField sec (keyName f.1) = true →
        (kindOf sec (keyName f.1)).admits f.2 = true := by
  obtain ⟨fields, rfl, hfields⟩ := isReadable_section hsec (isReadable_of_isTyped h)
  unfold isTyped at h
  rw [if_pos hsec] at h
  exact ⟨fields, rfl, of_decide_eq_true (Bool.and_eq_true_iff.1 h).1, hfields⟩

/-- What is given for a name can be read as a member of this name. -/
theorem WellTyped.isTyped_of_given (h : WellTyped layer) (hd : given name layer = some d) :
    isTyped name d = true := by
  obtain ⟨key, hkey, hmem⟩ := mem_of_given hd
  have := h.members _ hmem
  rwa [hkey] at this

/-- Where no name is given twice, what is given last is what is given first. -/
theorem lastGiven_eq_given (h : (keyNames members).Nodup) (name : String) :
    lastGiven name members = given name members := by
  have hkeys : (Entries.keys (members.map fun m => (keyName m.1, m.2))).Nodup := by
    rwa [Entries.keys, List.map_map]
  rw [lastGiven_eq_lookup, given_eq_lookup_map, Entries.lookup_reverse hkeys]

/-- Brought to one form, a layer has for a field what it sets it to. -/
theorem WellTyped.valueAt_normalizedMembers (h : WellTyped layer)
    (hfield : isField sec field = true) :
    valueAt (normalizedMembers [] layer) sec field = givenIn layer sec field := by
  unfold valueAt givenIn
  rw [lookup_normalizedMembers, lastGiven_eq_given h.keys]
  cases hd : given sec layer with
  | none => rfl
  | some d =>
      obtain ⟨fields, rfl, hkeys, hfields⟩ :=
        isTyped_section (isSection_of_isField hfield) (h.isTyped_of_given hd)
      rw [Option.map_some, Option.bind_some, normalized]
      exact (lookup_normalizedMembers_field hfields hfield).trans (lastGiven_eq_given hkeys field)

/-- Brought to one form, a layer leaves out the models that it names. -/
theorem WellTyped.lookup_models (h : WellTyped layer) :
    (normalizedMembers [] layer).lookup "excluded_models" = given "excluded_models" layer :=
  h.readable.lookup_models.trans (lastGiven_eq_given h.keys _)

/-! ### Laying over -/

/-- **What one layer laid over another has under a key.** -/
theorem lookup_overlay (h : (Entries.keys above).Nodup) (key : String) :
    (overlay below above).lookup key =
      match above.lookup key with
      | some d => some (overlayValue (below.lookup key) d)
      | none => below.lookup key := by
  induction above generalizing below with
  | nil => rw [overlay_nil]; rfl
  | cons m above ih =>
      obtain ⟨k, d⟩ := m
      obtain ⟨hk, habove⟩ := List.nodup_cons.1 h
      rw [overlay, ih habove, List.lookup_cons]
      by_cases hkey : key = k
      · -- The key is here, so it is nowhere else.
        subst hkey
        have hnone : above.lookup key = none := by
          rw [List.lookup_eq_none_iff]
          intro e he
          rw [bne_iff_ne]
          exact fun hsame => hk (List.mem_map.2 ⟨e, he, hsame.symm⟩)
        rw [hnone, beq_self_eq_true]
        exact Entries.lookup_put_self ..
      · have hne : (key == k) = false := by simp [hkey]
        rw [hne, Entries.lookup_put_of_ne hkey]

/-- What a field may hold takes the place of what was below. -/
theorem overlayValue_of_ne_object {d : Datum} (h : ∀ members, d ≠ .object members)
    (under : Option Datum) : overlayValue under d = d := by
  cases d with
  | object members => exact absurd rfl (h members)
  | _ => rw [overlayValue]; exact h

/-- Where the upper layer has no object, it counts, or else what was below. -/
theorem lookup_overlay_of_ne_object (h : (Entries.keys above).Nodup) {key : String}
    (hplain : ∀ d, above.lookup key = some d → ∀ members, d ≠ .object members) :
    (overlay below above).lookup key = (above.lookup key).or (below.lookup key) := by
  rw [lookup_overlay h]
  cases hd : above.lookup key with
  | none => rfl
  | some d =>
      dsimp only
      rw [overlayValue_of_ne_object (hplain d hd)]
      rfl

/-- A section of the result: the fields above laid over those below. -/
theorem Complete.lookup_overlay_section (h : Complete below) (ha : Proper above)
    (hsec : isSection sec = true) :
    ∃ under, below.lookup sec = some (.object under) ∧
      ((above.lookup sec = none ∧ (overlay below above).lookup sec = some (.object under)) ∨
        ∃ fields, above.lookup sec = some (.object fields) ∧ (Entries.keys fields).Nodup ∧
          (∀ field v, isField sec field = true → fields.lookup field = some v →
            (kindOf sec field).admits v = true) ∧
          (overlay below above).lookup sec = some (.object (overlay under fields))) := by
  obtain ⟨under, hunder⟩ := h.sections sec hsec
  refine ⟨under, hunder, ?_⟩
  rw [lookup_overlay ha.keys]
  cases habove : above.lookup sec with
  | none => exact .inl ⟨rfl, hunder⟩
  | some d =>
      obtain ⟨fields, rfl, hkeys, hfields⟩ := ha.sections sec d hsec habove
      refine .inr ⟨fields, rfl, hkeys, hfields, ?_⟩
      dsimp only
      rw [hunder, overlayValue]

/-- **Laying over, field by field**: what the upper layer has for a field counts, or else what was
below. -/
theorem Complete.valueAt_overlay (h : Complete below) (ha : Proper above)
    (hfield : isField sec field = true) :
    valueAt (overlay below above) sec field =
      (valueAt above sec field).or (valueAt below sec field) := by
  unfold valueAt
  obtain ⟨under, hunder, ⟨habove, hresult⟩ | ⟨fields, habove, hkeys, hfields, hresult⟩⟩ :=
    h.lookup_overlay_section ha (isSection_of_isField hfield)
  · rw [hresult, habove, hunder]
    rfl
  · rw [hresult, habove, hunder]
    exact lookup_overlay_of_ne_object hkeys fun v hv =>
      FieldKind.ne_object (hfields field v hfield hv)

/-- So it is with the models that are left out. -/
theorem lookup_overlay_models (ha : Proper above) :
    (overlay below above).lookup "excluded_models" =
      (above.lookup "excluded_models").or (below.lookup "excluded_models") :=
  lookup_overlay_of_ne_object ha.keys fun d hd => FieldKind.ne_object (ha.models d hd)

/-- What a layer in one form has for a field, the field may hold. -/
theorem Proper.admits (ha : Proper above) (hfield : isField sec field = true) {d : Datum}
    (hd : valueAt above sec field = some d) : (kindOf sec field).admits d = true := by
  unfold valueAt at hd
  obtain ⟨e, he, hd⟩ := Option.bind_eq_some_iff.1 hd
  obtain ⟨fields, rfl, -, hfields⟩ := ha.sections sec e (isSection_of_isField hfield) he
  exact hfields field d hfield hd

/-- **A document stays complete** under whatever layer is laid over it. -/
theorem Complete.overlay (h : Complete below) (ha : Proper above) :
    Complete (overlay below above) where
  sections := by
    intro sec hsec
    obtain ⟨under, -, ⟨-, hresult⟩ | ⟨fields, -, -, -, hresult⟩⟩ :=
      h.lookup_overlay_section ha hsec
    · exact ⟨under, hresult⟩
    · exact ⟨_, hresult⟩
  fields := by
    intro sec field hfield
    rw [h.valueAt_overlay ha hfield]
    cases hd : valueAt above sec field with
    | none => exact h.fields sec field hfield
    | some d => exact ⟨d, rfl, ha.admits hfield hd⟩
  models := by
    rw [lookup_overlay_models ha]
    cases hd : above.lookup "excluded_models" with
    | none => exact h.models
    | some d => exact ⟨d, rfl, ha.models d hd⟩

end DartScaffold.Settings
