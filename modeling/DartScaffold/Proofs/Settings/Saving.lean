/-
**Settings that are saved and loaded again.**

Settings are saved as a document in JSON and loaded through their layers, with keys brought to one
form, laid over the usual values and what the environment sets, and read field by field.  Nothing is
lost on this way when the fields hold what they are declared to: each field is written, so what the
file says counts for all of them.  Only the columns that are left out, which are a set, may come
back in another order.

Main definitions:

* `Settings.Typed` — settings whose fields hold what they are declared to;
* `Settings.saved` — the members of the document that settings are saved as;
* `Settings.withColumns` — the settings with other columns left out.

Main results:

* `Settings.document_eq` — what settings are saved as;
* `Settings.Typed.rereadable` — the document can be read again if the timeout is not too long;
* `Settings.save_run` — saving leaves the document in the file;
* `Settings.Typed.ofDocument_saved` — laid over the other layers, the document gives the settings;
* `Settings.Typed.save_load` — **settings that are saved and loaded again are the same**.
-/

import Mathlib
import DartScaffold.Proofs.Datum.Rereading
import DartScaffold.Proofs.Files.Additions
import DartScaffold.Proofs.Settings.Precedence

set_option relaxedAutoImplicit false
set_option autoImplicit false

namespace DartScaffold

/-! ### Values and texts -/

namespace Datum

/-- Values that are no numbers with a fraction and hold no other values. -/
def Simple (d : Datum) : Prop :=
  d = .null ∨ (∃ b : Bool, d = .bool b) ∨ (∃ i : Int, d = .int i) ∨ ∃ s : String, d = .text s

theorem Simple.same_self {d : Datum} (h : d.Simple) : d.same d = true := by
  obtain rfl | ⟨b, rfl⟩ | ⟨i, rfl⟩ | ⟨s, rfl⟩ := h
  · rfl
  · cases b <;> rfl
  · simp [same, number?, compareNumbers?]
  · exact same_text s

theorem simple_text (s : String) : (Datum.text s).Simple := .inr (.inr (.inr ⟨s, rfl⟩))

theorem sameItems_self {ds : List Datum} (h : ∀ d ∈ ds, d.Simple) : sameItems ds ds = true := by
  induction ds with
  | nil => rfl
  | cons d ds ih =>
      rw [sameItems, (h d (List.mem_cons_self ..)).same_self,
        ih fun e he => h e (List.mem_cons_of_mem _ he)]
      rfl

/-- Texts can be put in order. -/
theorem exists_ordered_texts {ds : List Datum} (h : ∀ d ∈ ds, ∃ s : String, d = .text s) :
    ∃ sorted, ordered ds = .ok sorted ∧ sorted.Perm ds := by
  have hcompared : ds.all (fun a => ds.all fun b => (compare? a b).isSome) = true := by
    simp only [List.all_eq_true]
    intro a ha b hb
    obtain ⟨s, rfl⟩ := h a ha
    obtain ⟨s', rfl⟩ := h b hb
    rw [compare?]
    rfl
  refine ⟨ds.mergeSort fun a b => compare? a b != some .gt, ?_, List.mergeSort_perm ..⟩
  rw [ordered, sorted?, if_pos hcompared]

end Datum

namespace FileTree

/-- A text without carriage returns is read as it is. -/
theorem unifyBreaks_of_not_mem {cs : List Char} (h : '\r' ∉ cs) : unifyBreaks cs = cs := by
  induction cs with
  | nil => rfl
  | cons c cs ih =>
      rw [List.mem_cons, not_or] at h
      unfold unifyBreaks
      split
      · rename_i heq; cases heq
      · rename_i heq
        exact absurd (List.cons.inj heq).1.symm h.1
      · rename_i heq
        exact absurd (List.cons.inj heq).1.symm h.1
      · rename_i heq
        obtain ⟨rfl, rfl⟩ := List.cons.inj heq
        rw [ih h.2]

end FileTree

namespace Settings

variable {t : Settings} {sec field : String} {d : Datum} {s : Session} {columns : List Datum}

/-! ### Settings as they are declared -/

/-- Settings whose fields hold what they are declared to. -/
structure Typed (t : Settings) : Prop where
  texts : ∀ d ∈ [t.output.basePath, t.output.modelsPath, t.output.servicesPath,
    t.output.widgetsPath, t.output.screensPath, t.output.utilsPath, t.api.baseUrl, t.api.authType,
    t.api.authHeader, t.code.architecture], ∃ s : String, d = .text s
  number : ∃ i : Int, t.api.timeout = .int i
  switches : ∀ d ∈ [t.code.nullSafety, t.code.useFreezed, t.code.useJsonAnnotation,
    t.code.documentation, t.analysis.includeRelationships, t.analysis.probeAccessors,
    t.analysis.strict], ∃ b : Bool, d = .bool b
  path : t.templates.path = .null ∨ ∃ s : String, t.templates.path = .text s
  once : t.analysis.excludedAttributes.Nodup
  columns : ∀ d ∈ t.analysis.excludedAttributes, ∃ s : String, d = .text s
  models : ∀ d ∈ t.excludedModels, ∃ s : String, d = .text s

/-- The settings with other columns left out. -/
def withColumns (t : Settings) (columns : List Datum) : Settings :=
  { t with analysis := { t.analysis with excludedAttributes := columns } }

theorem fieldValues_eq_tableOf (t : Settings) :
    t.fieldValues = tableOf fun sec field => (t.valueOf sec field).getD .null := rfl

/-- A field holds nothing, a truth value, the timeout or a text. -/
theorem Typed.cases_of_mem (h : t.Typed) (hd : d ∈ same.fields t) :
    d = .null ∨ (∃ b : Bool, d = .bool b) ∨ d = t.api.timeout ∨ ∃ s : String, d = .text s := by
  have hcases : d ∈ [t.output.basePath, t.output.modelsPath, t.output.servicesPath,
      t.output.widgetsPath, t.output.screensPath, t.output.utilsPath, t.api.baseUrl,
      t.api.authType, t.api.authHeader, t.code.architecture] ∨ d = t.api.timeout ∨
      d ∈ [t.code.nullSafety, t.code.useFreezed, t.code.useJsonAnnotation, t.code.documentation,
        t.analysis.includeRelationships, t.analysis.probeAccessors, t.analysis.strict] ∨
      d = t.templates.path := by
    simp only [same.fields, List.mem_cons, List.not_mem_nil, or_false] at hd ⊢
    tauto
  rcases hcases with htext | htimeout | hswitch | rfl
  · exact .inr (.inr (.inr (h.texts d htext)))
  · exact .inr (.inr (.inl htimeout))
  · exact .inr (.inl (h.switches d hswitch))
  · exact h.path.imp_right fun htext => .inr (.inr htext)

/-- What is looked at when settings are compared is all that the fields hold. -/
theorem mem_fields (t : Settings) : ∀ row ∈ t.fieldValues, ∀ f ∈ row.2,
    f.2 ∈ same.fields t ∨ f.2 = .text t.templates.extension := by
  simp only [fieldValues, List.mem_cons, List.not_mem_nil, or_false, forall_eq_or_imp, forall_eq]
  simp [same.fields]

theorem Typed.value_cases (h : t.Typed) {row : String × List (String × Datum)}
    (hrow : row ∈ t.fieldValues) {f : String × Datum} (hf : f ∈ row.2) :
    f.2 = .null ∨ (∃ b : Bool, f.2 = .bool b) ∨ f.2 = t.api.timeout ∨
      ∃ s : String, f.2 = .text s := by
  rcases mem_fields t row hrow f hf with hd | hd
  · exact h.cases_of_mem hd
  · exact .inr (.inr (.inr ⟨_, hd⟩))

theorem Typed.simple_fields (h : t.Typed) : ∀ d ∈ same.fields t, d.Simple := by
  intro d hd
  obtain ⟨i, hi⟩ := h.number
  rcases h.cases_of_mem hd with rfl | hb | rfl | hs
  · exact .inl rfl
  · exact .inr (.inl hb)
  · exact .inr (.inr (.inl ⟨i, hi⟩))
  · exact .inr (.inr (.inr hs))

/-- Settings that hold the same values are the same but for the columns that are left out. -/
theorem eq_withColumns {t' : Settings} (hfields : t'.fieldValues = t.fieldValues)
    (hmodels : t'.excludedModels = t.excludedModels) :
    t' = t.withColumns t'.analysis.excludedAttributes := by
  obtain ⟨⟨⟩, ⟨⟩, ⟨⟩, ⟨⟩, ⟨⟩, models⟩ := t
  obtain ⟨⟨⟩, ⟨⟩, ⟨⟩, ⟨⟩, ⟨⟩, models'⟩ := t'
  simp only [fieldValues, List.cons.injEq, Prod.mk.injEq, and_true, true_and,
    Datum.text.injEq] at hfields
  simp_all [withColumns]

/-- Settings with the same columns in another order are the same. -/
theorem same_withColumns (hsimple : ∀ d ∈ same.fields t, d.Simple)
    (hcolumns : ∀ d ∈ columns, d.Simple) (hmodels : ∀ d ∈ t.excludedModels, d.Simple)
    (hperm : columns.Perm t.analysis.excludedAttributes) :
    (t.withColumns columns).same t = true := by
  have hmembers : sameMembers columns t.analysis.excludedAttributes = true := by
    rw [sameMembers, Bool.and_eq_true, beq_iff_eq, List.all_eq_true]
    refine ⟨hperm.length_eq, fun d hd => ?_⟩
    rw [Datum.isIn, List.any_eq_true]
    exact ⟨d, hperm.mem_iff.1 hd, (hcolumns d hd).same_self⟩
  have hfields : same.fields (t.withColumns columns) = same.fields t := rfl
  rw [same, hfields, Datum.sameItems_self hsimple]
  show (sameMembers columns t.analysis.excludedAttributes && true &&
    t.templates.extension == t.templates.extension &&
    Datum.sameItems t.excludedModels t.excludedModels) = true
  rw [hmembers, beq_self_eq_true, Datum.sameItems_self hmodels]
  rfl

/-! ### The document -/

/-- The fields of a section as they are saved, the columns that are left out behind the others. -/
def savedFields (columns : List Datum) (sec : String) (fields : List (String × Datum)) :
    List (String × Datum) :=
  if sec = "model_analysis" then fields ++ [("excluded_attributes", .list columns)] else fields

/-- The sections as they are saved. -/
def savedSections (t : Settings) (columns : List Datum) :
    List (String × List (String × Datum)) :=
  t.fieldValues.map fun row => (row.1, savedFields columns row.1 row.2)

theorem mem_savedFields {fields : List (String × Datum)} {f : String × Datum}
    (hf : f ∈ savedFields columns sec fields) :
    f ∈ fields ∨ sec = "model_analysis" ∧ f = ("excluded_attributes", .list columns) := by
  unfold savedFields at hf
  split_ifs at hf with hsec
  · exact (List.mem_append.1 hf).imp_right fun hf => ⟨hsec, List.mem_singleton.1 hf⟩
  · exact .inl hf

/-- The members of the document that settings are saved as. -/
def saved (t : Settings) (columns : List Datum) : List (String × Datum) :=
  ((t.savedSections columns).map fun row => (row.1, .object row.2)) ++
    [("excluded_models", .list t.excludedModels)]

/-- What settings are saved as. -/
theorem document_eq (h : Datum.ordered t.analysis.excludedAttributes = .ok columns) :
    t.document = .ok (.object (t.saved columns)) := by
  rw [document, h]
  rfl

/-- All fields are saved, and in order. -/
theorem names_savedSections (t : Settings) (columns : List Datum) :
    ((t.savedSections columns).map fun row => (row.1, row.2.map Prod.fst)) =
      sections.map fun row => (row.1, row.2.map Prod.fst) := rfl

theorem keyName_models : keyName "excluded_models" = "excluded_models" := by decide +kernel

/-- All names are in form, and no two of them are the same. -/
theorem keyName_sections : ∀ row ∈ sections, keyName row.1 = row.1 ∧ isSection row.1 = true ∧
    (∀ name ∈ row.2.map Prod.fst, keyName name = name) ∧ (row.2.map Prod.fst).Nodup := by
  decide +kernel

theorem keyName_savedSections {row : String × List (String × Datum)}
    (hrow : row ∈ t.savedSections columns) : keyName row.1 = row.1 ∧ isSection row.1 = true ∧
      (∀ f ∈ row.2, keyName f.1 = f.1) ∧ (row.2.map Prod.fst).Nodup := by
  have hnames : (row.1, row.2.map Prod.fst) ∈
      (t.savedSections columns).map fun row => (row.1, row.2.map Prod.fst) :=
    List.mem_map.2 ⟨row, hrow, rfl⟩
  rw [names_savedSections] at hnames
  obtain ⟨usual, husual, heq⟩ := List.mem_map.1 hnames
  obtain ⟨hname, hfields⟩ := Prod.mk.inj heq
  obtain ⟨hkey, hsec, hkeys, hnodup⟩ := keyName_sections usual husual
  rw [hname] at hkey hsec
  rw [hfields] at hkeys hnodup
  exact ⟨hkey, hsec, fun f hf => hkeys f.1 (List.mem_map_of_mem hf), hnodup⟩

theorem keyName_saved {m : String × Datum} (hm : m ∈ t.saved columns) : keyName m.1 = m.1 := by
  rcases List.mem_append.1 hm with hm | hm
  · obtain ⟨row, hrow, rfl⟩ := List.mem_map.1 hm
    exact (keyName_savedSections hrow).1
  · rw [List.mem_singleton.1 hm]
    exact keyName_models

theorem nodup_saved (t : Settings) (columns : List Datum) :
    (Entries.keys (t.saved columns)).Nodup := by
  show ((sections.map Prod.fst) ++ ["excluded_models"]).Nodup
  decide

/-- With keys in form, what was given for a name is the member under it. -/
theorem given_eq_lookup {members : List (String × Datum)} (h : ∀ m ∈ members, keyName m.1 = m.1)
    (name : String) : given name members = members.lookup name := by
  have hform : members.map (fun m => (keyName m.1, m.2)) = members.map id := by
    refine List.map_congr_left fun m hm => ?_
    rw [h m hm]
    rfl
  rw [given_eq_lookup_map, hform, List.map_id]

theorem lookup_saved (hsec : isSection sec = true) :
    (t.saved columns).lookup sec = ((t.savedSections columns).lookup sec).map .object := by
  have hnames := (isSection_iff sec).1 hsec
  simp only [List.mem_cons, List.not_mem_nil, or_false] at hnames
  rcases hnames with rfl | rfl | rfl | rfl | rfl <;> rfl

/-- What is saved for a field is given for it. -/
theorem givenIn_saved (hfield : isField sec field = true) :
    givenIn (t.saved columns) sec field =
      ((t.savedSections columns).lookup sec).bind fun fields => fields.lookup field := by
  rw [givenIn, given_eq_lookup (fun m hm => keyName_saved hm),
    lookup_saved (isSection_of_isField hfield)]
  cases hrow : (t.savedSections columns).lookup sec with
  | none => rfl
  | some fields =>
      have hmem : (sec, fields) ∈ t.savedSections columns := Entries.mem_of_lookup hrow
      exact given_eq_lookup (keyName_savedSections hmem).2.2.1 field

theorem givenIn_saved_of_ne (hfield : isField sec field = true)
    (hkind : kindOf sec field ≠ .texts) :
    givenIn (t.saved columns) sec field = t.valueOf sec field := by
  rw [givenIn_saved hfield, savedSections, Entries.lookup_map (savedFields columns), valueOf]
  cases t.fieldValues.lookup sec with
  | none => rfl
  | some fields =>
      rw [Option.map_some, Option.bind_some, Option.bind_some, savedFields]
      split_ifs with hsec
      · -- The columns that are left out stand behind all other fields.
        have hne : field ≠ "excluded_attributes" := by
          rintro rfl
          exact hkind (if_pos ⟨hsec, rfl⟩)
        rw [List.lookup_append, lookup_singleton, if_neg hne, Option.or_none]
      · rfl

theorem givenIn_saved_columns :
    givenIn (t.saved columns) "model_analysis" "excluded_attributes" = some (.list columns) := by
  rw [givenIn_saved (by decide)]
  rfl

theorem given_saved_models :
    given "excluded_models" (t.saved columns) = some (.list t.excludedModels) := by
  rw [given_eq_lookup fun m hm => keyName_saved hm]
  rfl

/-- All fields but the ending of templates, which is a text, may hold any simple value. -/
theorem kind_cases (t : Settings) : ∀ row ∈ t.fieldValues, ∀ f ∈ row.2,
    kindOf row.1 f.1 = .plain ∨ kindOf row.1 f.1 = .text ∧ f.2 = .text t.templates.extension := by
  simp only [fieldValues, List.mem_cons, List.not_mem_nil, or_false, forall_eq_or_imp, forall_eq]
  simp [kindOf]

/-- All fields hold what they may. -/
theorem Typed.admits (h : t.Typed) {row : String × List (String × Datum)}
    (hrow : row ∈ t.fieldValues) {f : String × Datum} (hf : f ∈ row.2) :
    (kindOf row.1 f.1).admits f.2 = true := by
  rcases kind_cases t row hrow f hf with hkind | ⟨hkind, hd⟩
  · obtain ⟨i, hi⟩ := h.number
    rw [hkind]
    obtain hd | ⟨b, hd⟩ | hd | ⟨s, hd⟩ := h.value_cases hrow hf
    · rw [hd]; rfl
    · rw [hd]; rfl
    · rw [hd, hi]; rfl
    · rw [hd]; rfl
  · rw [hkind, hd]
    rfl

theorem Typed.admits_saved (h : t.Typed) (hcolumns : ∀ d ∈ columns, ∃ s : String, d = .text s)
    {row : String × List (String × Datum)} (hrow : row ∈ t.savedSections columns)
    {f : String × Datum} (hf : f ∈ row.2) : (kindOf row.1 f.1).admits f.2 = true := by
  obtain ⟨held, hheld, rfl⟩ := List.mem_map.1 hrow
  rcases mem_savedFields hf with hf | ⟨hsec, rfl⟩
  · exact h.admits hheld hf
  · rw [kindOf, if_pos ⟨hsec, rfl⟩]
    exact List.all_eq_true.2 fun d hd => (Backend.isText_iff d).2 (hcolumns d hd)

/-- The document that settings are saved as can be read as a layer. -/
theorem Typed.wellTyped_saved (h : t.Typed)
    (hcolumns : ∀ d ∈ columns, ∃ s : String, d = .text s) : WellTyped (t.saved columns) where
  keys := by
    rw [List.map_congr_left (g := Prod.fst) fun m hm => keyName_saved hm]
    exact nodup_saved t columns
  members m hm := by
    rw [keyName_saved hm]
    rcases List.mem_append.1 hm with hm | hm
    · obtain ⟨row, hrow, rfl⟩ := List.mem_map.1 hm
      obtain ⟨-, hsec, hkeys, hnodup⟩ := keyName_savedSections hrow
      rw [isTyped, if_pos hsec]
      dsimp only
      rw [Bool.and_eq_true, decide_eq_true_eq, List.all_eq_true,
        List.map_congr_left (g := Prod.fst) fun f hf => hkeys f hf]
      refine ⟨hnodup, fun f hf => ?_⟩
      rw [hkeys f hf, h.admits_saved hcolumns hrow hf, Bool.or_true]
    · obtain rfl := List.mem_singleton.1 hm
      have hmodels : FieldKind.texts.admits (.list t.excludedModels) = true :=
        List.all_eq_true.2 fun d hd => (Backend.isText_iff d).2 (h.models d hd)
      have hsec : isSection "excluded_models" = false := by decide
      simp [isTyped, hsec, hmodels]

/-- The document that settings are saved as can be read again if there may be as many digits in a
number as the timeout has. -/
theorem Typed.rereadable (h : t.Typed) (hcolumns : ∀ d ∈ columns, ∃ s : String, d = .text s)
    {digits : Nat} (hshort : ∀ i, t.api.timeout = .int i → i.natAbs < 10 ^ digits) :
    Datum.Rereadable digits Datum.maxDepth (.object (t.saved columns)) := by
  have htexts : ∀ {depth : Nat} (ds : List Datum), (∀ d ∈ ds, ∃ s : String, d = .text s) →
      ∀ d ∈ ds, Datum.Rereadable digits depth d := by
    intro depth ds hds d hd
    obtain ⟨s, rfl⟩ := hds d hd
    exact .text s
  refine .object (nodup_saved t columns) fun m hm => ?_
  rcases List.mem_append.1 hm with hm | hm
  · obtain ⟨row, hrow, rfl⟩ := List.mem_map.1 hm
    refine .object (keyName_savedSections hrow).2.2.2 fun f hf => ?_
    obtain ⟨held, hheld, rfl⟩ := List.mem_map.1 hrow
    rcases mem_savedFields hf with hf | ⟨-, rfl⟩
    · obtain ⟨i, hi⟩ := h.number
      obtain hd | ⟨b, hd⟩ | hd | ⟨s, hd⟩ := h.value_cases hheld hf
      · rw [hd]; exact .null
      · rw [hd]; exact .bool b
      · rw [hd, hi]; exact .int (hshort i hi)
      · rw [hd]; exact .text s
    · exact .list (htexts columns hcolumns)
  · obtain rfl := List.mem_singleton.1 hm
    exact .list (htexts t.excludedModels h.models)

/-! ### Loading what was saved -/

/-- What the file says counts for every field. -/
theorem effective_saved (environment : Option String) (hfield : isField sec field = true)
    (hkind : kindOf sec field ≠ .texts) :
    effective environment (t.saved columns) [] sec field = t.valueOf sec field := by
  have hvalue : t.valueOf sec field = some ((t.valueOf sec field).getD .null) := by
    rw [valueOf, fieldValues_eq_tableOf, lookup_tableOf _ hfield hkind]
    rfl
  have hnone : givenIn [] sec field = none := rfl
  rw [effective, hnone, Option.none_or, givenIn_saved_of_ne hfield hkind, hvalue]
  rfl

/-- Settings that hold the same values field by field. -/
theorem fieldValues_eq_of_carries {t' : Settings} {value : String → String → Option Datum}
    {models : Option Datum} (h : t'.Carries value models)
    (hvalue : ∀ sec field, isField sec field = true → kindOf sec field ≠ .texts →
      value sec field = t.valueOf sec field) : t'.fieldValues = t.fieldValues := by
  rw [fieldValues_eq_tableOf t', fieldValues_eq_tableOf t]
  refine tableOf_congr fun sec field hfield hkind => ?_
  rw [h.fields _ _ hfield hkind, hvalue _ _ hfield hkind]

/-- **Laid over the other layers, the document gives the settings.** -/
theorem Typed.ofDocument_saved (h : t.Typed) (environment : Option String)
    (hperm : columns.Perm t.analysis.excludedAttributes) :
    ∃ columns' : List Datum, columns'.Perm t.analysis.excludedAttributes ∧
      ofDocument (merged environment (t.saved columns) []) =
        .ok (t.withColumns columns', .text t.templates.extension) := by
  have hcolumns : ∀ d ∈ columns, ∃ s : String, d = .text s := fun d hd =>
    h.columns d (hperm.mem_iff.1 hd)
  have hlayer := h.wellTyped_saved hcolumns
  obtain ⟨t', ht', hcarries⟩ :=
    (complete_merged environment hlayer wellTyped_nil).exists_ofDocument
  rw [lookup_merged_models environment hlayer wellTyped_nil] at hcarries
  have heffective := hcarries.congr fun sec field hfield =>
    valueAt_merged environment hlayer wellTyped_nil hfield
  have hfields := fieldValues_eq_of_carries heffective fun sec field =>
    effective_saved environment
  have hmodels : t'.excludedModels = t.excludedModels := by
    rw [heffective.models, effectiveModels, given_saved_models]
    rfl
  have hall := eq_withColumns hfields hmodels
  have hextension : t'.templates.extension = t.templates.extension := by rw [hall]; rfl
  refine ⟨t'.analysis.excludedAttributes, ?_, by rw [ht', ← hextension, ← hall]⟩
  rw [List.perm_ext_iff_of_nodup heffective.once h.once]
  intro d
  rw [heffective.attributes, effective, givenIn_saved_columns]
  exact hperm.mem_iff

/-! ### Saving and loading -/

variable {name : String}

theorem writeText_run {p : Path} {text : String} {tree : FileTree}
    (h : s.tree.write p text = .ok tree) :
    (writeText p text).run.run s = (.ok (), { s with tree := tree }) := by
  have htree : (Run.tree).run.run s = (.ok s.tree, s) := rfl
  rw [writeText, run_bind, htree]
  dsimp only
  rw [h]
  rfl

/-- Saving leaves the document in the file, if a file can be written there. -/
theorem save_run (hd : t.document = .ok d) {loc : FileTree.Location}
    (hw : s.tree.writable (Path.ofString name) = .ok loc) :
    ∃ tree : FileTree, (save t (.text name)).run.run s = (.ok (), { s with tree := tree }) ∧
      tree.read (Path.ofString name) = .ok (.text d.pretty) := by
  -- The file is emptied first, and then the document is written to it.
  obtain ⟨emptied, hemptied⟩ : ∃ tree, s.tree.write (Path.ofString name) "" = .ok tree := by
    rw [FileTree.write, hw]
    exact ⟨_, rfl⟩
  obtain ⟨written, hwritten⟩ :
      ∃ tree, emptied.write (Path.ofString name) d.pretty = .ok tree := by
    rw [FileTree.write, FileTree.writable_of_write hemptied]
    exact ⟨_, rfl⟩
  refine ⟨written, ?_, FileTree.read_of_write hwritten⟩
  have hlift : (liftM (Except.ok d : Except Misuse Datum) : Run Datum).run.run
      { s with tree := emptied } = (.ok d, { s with tree := emptied }) := rfl
  unfold save
  dsimp only
  rw [run_bind, writeText_run hemptied]
  dsimp only
  rw [hd, run_bind, hlift]
  exact writeText_run (s := { s with tree := emptied }) hwritten

/-- The settings that were saved are looked at for what is odd. -/
theorem Typed.exists_warnings (h : t.Typed) (columns' : List Datum)
    (raw : List (String × Datum)) :
    ∃ texts, warnings (t.withColumns columns') (.text t.templates.extension) raw = .ok texts := by
  obtain ⟨auth, hauth⟩ := h.texts t.api.authType (by simp)
  obtain ⟨architecture, harchitecture⟩ := h.texts t.code.architecture (by simp)
  refine Settings.exists_warnings ?_ ?_ _ raw
  · show t.api.authType.hashable = true
    rw [hauth]
    rfl
  · show t.code.architecture.hashable = true
    rw [harchitecture]
    rfl

/-- Loading reads the settings back from the file. -/
theorem Typed.load_run (h : t.Typed) (environment : Option String)
    (hperm : columns.Perm t.analysis.excludedAttributes)
    (hfile : FileHolds s.tree (.text name) (t.saved columns)) :
    ∃ columns' : List Datum, columns'.Perm t.analysis.excludedAttributes ∧
      ((load (environment.elim .null .text) (.text name) .null).run.run s).1 =
        .ok (t.withColumns columns') := by
  obtain ⟨columns', hperm', hread⟩ := h.ofDocument_saved environment hperm
  obtain ⟨texts, htexts⟩ := h.exists_warnings columns' (merged environment (t.saved columns) [])
  have hload : ((load (environment.elim .null .text) (.text name)
      ((none : Option (List (String × Datum))).elim .null .object)).run.run s).1 =
        .ok (t.withColumns columns') := Settings.load_run hfile rfl hread htexts
  exact ⟨columns', hperm', hload⟩

/-- There is no carriage return in the document, however many digits the timeout has. -/
theorem Typed.not_mem_pretty (h : t.Typed) (hcolumns : ∀ d ∈ columns, ∃ s : String, d = .text s) :
    '\r' ∉ (Datum.pretty (.object (t.saved columns))).toList := by
  obtain ⟨i, hi⟩ := h.number
  have hread : Datum.Rereadable i.natAbs Datum.maxDepth (.object (t.saved columns)) := by
    refine h.rereadable hcolumns fun j hj => ?_
    obtain rfl := Datum.int.inj (hi.symm.trans hj)
    exact Nat.lt_pow_self (by decide)
  exact Datum.not_mem_pretty hread

/-- **Settings that are saved and loaded again are the same**, whatever the environment says, if
the document that they are saved as is read as it was written.  This is so unless the timeout has
thousands of digits. -/
theorem Typed.save_load (h : t.Typed) (environment : Option String) {loc : FileTree.Location}
    (hw : s.tree.writable (Path.ofString name) = .ok loc)
    (hextension : Text.lower (Path.ofString name).extension = ".json") :
    ∃ (d : Datum) (s' : Session), t.document = .ok d ∧
      (save t (.text name)).run.run s = (.ok (), s') ∧
      ((∀ i, t.api.timeout = .int i → i.natAbs < 10 ^ Datum.maxDigits) →
        Datum.parse d.pretty = .ok d) ∧
      (Datum.parse d.pretty = .ok d → ∃ columns : List Datum,
        columns.Perm t.analysis.excludedAttributes ∧
        ((load (environment.elim .null .text) (.text name) .null).run.run s').1 =
          .ok (t.withColumns columns) ∧
        (t.withColumns columns).same t = true) := by
  obtain ⟨sorted, hsorted, hperm⟩ := Datum.exists_ordered_texts h.columns
  have hcolumns : ∀ d ∈ sorted, ∃ s : String, d = .text s := fun d hd =>
    h.columns d (hperm.mem_iff.1 hd)
  have hdocument := document_eq hsorted
  obtain ⟨tree, hsave, hread⟩ := save_run hdocument hw
  refine ⟨_, _, hdocument, hsave, fun hshort => ?_, fun hparse => ?_⟩
  · exact Datum.parse_pretty (h.rereadable hcolumns hshort)
  · have htext : (FileTree.Content.text (Datum.pretty (.object (t.saved sorted)))).lineText =
        .ok (Datum.pretty (.object (t.saved sorted))) := by
      rw [FileTree.Content.lineText, FileTree.unifyBreaks_of_not_mem (h.not_mem_pretty hcolumns),
        String.ofList_toList]
    have hfile : FileHolds tree (.text name) (t.saved sorted) :=
      .json hread hextension htext hparse
    obtain ⟨columns, hperm', hload⟩ :=
      h.load_run (s := { s with tree := tree }) environment hperm hfile
    refine ⟨columns, hperm', hload, same_withColumns h.simple_fields ?_ ?_ hperm'⟩
    · intro d hd
      obtain ⟨s, rfl⟩ := h.columns d (hperm'.mem_iff.1 hd)
      exact Datum.simple_text s
    · intro d hd
      obtain ⟨s, rfl⟩ := h.models d hd
      exact Datum.simple_text s

/-- Settings that are unlike the usual ones in every field. -/
def unusual : Settings where
  output := ⟨.text "lib/src", .text "data", .text "remote", .text "parts", .text "pages", .text ""⟩
  api := ⟨.text "https://api.test/v2", .int (-3), .text "token\r\n", .text "X-Token"⟩
  code := ⟨.text "bloc", .bool false, .bool true, .bool false, .bool false⟩
  analysis := ⟨.bool false, .bool true, .bool true, [.text "token", .text "secret"]⟩
  templates := ⟨.text "templates", "jinja"⟩
  excludedModels := [.text "Log", .text "Audit", .text "Log"]

/-- They are saved and loaded again, though the environment has an address of its own. -/
theorem save_load_unusual : ∃ (d : Datum) (s' : Session), unusual.document = .ok d ∧
    (save unusual (.text "codegen.json")).run.run (.start .empty [] Web.unreachable) =
      (.ok (), s') ∧
    Datum.parse d.pretty = .ok d ∧
    ∃ columns : List Datum, columns.Perm [.text "token", .text "secret"] ∧
      ((load (.text "https://env.test") (.text "codegen.json") .null).run.run s').1 =
        .ok (unusual.withColumns columns) ∧
      (unusual.withColumns columns).same unusual = true := by
  have htyped : unusual.Typed := by
    refine ⟨?_, ⟨-3, rfl⟩, ?_, .inr ⟨_, rfl⟩, ?_, ?_, ?_⟩ <;> simp [unusual]
  have hw : (Session.start .empty [] Web.unreachable).tree.writable
      (Path.ofString "codegen.json") = .ok ["work", "codegen.json"] := by decide +kernel
  have hextension : Text.lower (Path.ofString "codegen.json").extension = ".json" := by
    decide +kernel
  obtain ⟨d, s', hdocument, hsave, hparse, hload⟩ :=
    htyped.save_load (some "https://env.test") hw hextension
  have hread := hparse fun i hi => by
    obtain rfl : -3 = i := Datum.int.inj hi
    have hsmall : (-3 : Int).natAbs < 10 ^ 1 := by decide
    exact hsmall.trans_le (Nat.pow_le_pow_right (by decide) (by decide))
  exact ⟨d, s', hdocument, hsave, hread, hload hread⟩

end Settings

end DartScaffold
