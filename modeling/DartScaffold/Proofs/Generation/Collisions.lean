/-
**Files at one place.**

A planned file is written over by a later one at the same path, or keeps it from being written, and
nothing tells.  With a folder of its own for each component, and models whose names differ in their
form, almost all planned files have places of their own: within a folder the further words tell the
files of one model apart, and the words of the models tell those of different ones.  Only the
transport is named without a model.  Its name is the one that the service of a model called after
the word `api` gets.

Main definitions:

* `Pipeline.nameOf` — what tells where a file lies.

Main results:

* `Pipeline.nodup_nameOf_modelFiles` — the files of models have places of their own;
* `Pipeline.nodup_paths_planAll` — **the paths of planned files are distinct** exactly if no model
  is called `api`.
-/

import Mathlib
import DartScaffold.Proofs.Generation.PlannedPaths

set_option relaxedAutoImplicit false
set_option autoImplicit false

namespace DartScaffold.Pipeline

open Dart (Artifact Component Folder)

/-! ### Names of files -/

/-- What tells where a file lies: its folder, and the words that it is named by. -/
def nameOf (f : Artifact × Model) : Folder × List String :=
  (f.1.component.folder, f.1.fileWords f.2)

/-- A file of a model is named by the words of the model and further ones. -/
theorem nameOf_modelFiles (m : Model) : (modelFiles m).map nameOf =
    (modelArtifacts.map fun a => (a.component.folder, a.ownWords)).map fun k =>
      (k.1, Naming.words m.className ++ k.2) := by
  rw [modelFiles, List.map_map, List.map_map]
  refine List.map_congr_left fun a ha => ?_
  have hwords : a.modelWords m = Naming.words m.className := by
    cases a with
    | transport => exact absurd rfl (mem_modelArtifacts.1 ha)
    | _ => rfl
  show (a.component.folder, a.modelWords m ++ a.ownWords) = _
  rw [hwords]
  rfl

/-- In one folder all files have the same number of further words. -/
theorem length_ownWords {a b : Artifact} (ha : a ∈ modelArtifacts) (hb : b ∈ modelArtifacts)
    (h : a.component.folder = b.component.folder) : a.ownWords.length = b.ownWords.length := by
  have hall : ∀ a ∈ modelArtifacts, ∀ b ∈ modelArtifacts,
      a.component.folder = b.component.folder → a.ownWords.length = b.ownWords.length := by decide
  exact hall a ha b hb h

theorem mem_nameOf_modelFiles {m : Model} {k : Folder × List String} :
    k ∈ (modelFiles m).map nameOf ↔ ∃ a ∈ modelArtifacts, a.component.folder = k.1 ∧
      Naming.words m.className ++ a.ownWords = k.2 := by
  rw [nameOf_modelFiles, List.map_map, List.mem_map]
  refine exists_congr fun a => and_congr_right fun _ => ?_
  exact Prod.ext_iff

/-- The files of models whose names have different words have places of their own. -/
theorem nodup_nameOf_modelFiles {ms : List Model}
    (hdistinct : (ms.map fun m => Naming.words m.className).Nodup) :
    ((ms.flatMap modelFiles).map nameOf).Nodup := by
  rw [List.map_flatMap, List.nodup_flatMap]
  constructor
  · -- The files of one model: their further words differ, or their folders.
    intro m _
    rw [nameOf_modelFiles]
    have hown : (modelArtifacts.map fun a => (a.component.folder, a.ownWords)).Nodup := by decide
    refine hown.map fun k k' heq => ?_
    obtain ⟨hfolder, hwords⟩ := Prod.mk.inj heq
    exact Prod.ext hfolder (List.append_cancel_left hwords)
  · -- Files of two models: in one folder the same number of words stands behind those of each.
    refine (List.pairwise_map.1 hdistinct).imp fun {m m'} hne => ?_
    intro k hk hk'
    obtain ⟨a, ha, hfolder, hwords⟩ := mem_nameOf_modelFiles.1 hk
    obtain ⟨b, hb, hfolder', hwords'⟩ := mem_nameOf_modelFiles.1 hk'
    have hlength := length_ownWords ha hb (hfolder.trans hfolder'.symm)
    exact hne (List.append_inj' (hwords.trans hwords'.symm) hlength).1

/-- The name of the transport is that of the service of a model called `api`. -/
theorem mem_nameOf_transport (m : Model) :
    nameOf (.transport, default) ∈ (modelFiles m).map nameOf ↔
      Naming.words m.className = ["api"] := by
  rw [mem_nameOf_modelFiles]
  constructor
  · rintro ⟨a, ha, hfolder, hwords⟩
    have hservice : ∀ a ∈ modelArtifacts, a.component.folder = .services → a = .service := by decide
    obtain rfl := hservice a ha hfolder
    have hwords : Naming.words m.className ++ ["service"] = ["api"] ++ ["service"] := hwords
    exact List.append_cancel_right hwords
  · intro hwords
    refine ⟨.service, mem_modelArtifacts.2 nofun, rfl, ?_⟩
    rw [hwords]
    rfl

/-- All files have places of their own exactly if no model is called `api`. -/
theorem nodup_nameOf_allFiles {ms : List Model}
    (hdistinct : (ms.map fun m => Naming.words m.className).Nodup) :
    ((allFiles ms).map nameOf).Nodup ↔ ∀ m ∈ ms, Naming.words m.className ≠ ["api"] := by
  rw [allFiles, List.map_cons, List.nodup_cons, List.map_flatMap, List.mem_flatMap]
  have hmodels := nodup_nameOf_modelFiles hdistinct
  rw [List.map_flatMap] at hmodels
  rw [and_iff_left hmodels, not_exists]
  refine forall_congr' fun m => ?_
  rw [mem_nameOf_transport, not_and]

/-! ### Paths -/

/-- All files have a name if the models have. -/
theorem named_of_mem_allFiles {ms : List Model} (hms : ∀ m ∈ ms, Naming.words m.className ≠ [])
    {f : Artifact × Model} (hf : f ∈ allFiles ms) : f.1.Named f.2 := by
  rcases List.mem_cons.1 hf with rfl | hf
  · exact fun hne => absurd rfl hne
  · obtain ⟨m, hm, hf⟩ := List.mem_flatMap.1 hf
    obtain ⟨a, -, rfl⟩ := List.mem_map.1 hf
    exact fun _ => hms m hm

variable {p : Pipeline} {base : String} {folder : Folder → String}

/-- Files have one path exactly if they are named alike. -/
theorem nodup_plannedAt (h : Dart.LaidOut p.settings.output base folder)
    (hfolder : Function.Injective folder) {ms : List Model}
    (hms : ∀ m ∈ ms, Naming.words m.className ≠ []) :
    (((allFiles ms).map (plannedAt base folder)).map Planned.path).Nodup ↔
      ((allFiles ms).map nameOf).Nodup := by
  rw [List.map_map, List.Nodup, List.Nodup, List.pairwise_map, List.pairwise_map]
  refine List.Pairwise.iff_of_mem ?_
  rintro ⟨a, m⟩ ⟨b, m'⟩ ha hb
  have ha : a.Named m := named_of_mem_allFiles hms ha
  have hb : b.Named m' := named_of_mem_allFiles hms hb
  rw [Function.comp_apply, Function.comp_apply, path_plannedAt, path_plannedAt, ne_eq, ne_eq,
    Path.text_inj (Artifact.isRead_place base folder ha) (Artifact.isRead_place base folder hb),
    Artifact.place_inj h hfolder ha hb, nameOf, nameOf, Prod.mk.injEq]

/-- **The paths of planned files are distinct** exactly if no model is called `api`: with folders
that differ, and models whose names in small letters differ and are not empty.  The service of a
model that is called so has the path of the transport. -/
theorem nodup_paths_planAll (h : Dart.LaidOut p.settings.output base folder)
    (hfolder : Function.Injective folder) {ms : List Model}
    (hnamed : ∀ m ∈ ms, Naming.snake m.className ≠ "")
    (hdistinct : (ms.map fun m => Naming.snake m.className).Nodup) :
    ∃ plan, Yields (p.planAll ms) (· = plan) ∧
      (p.settings.Usable → EndsIn (p.planAll ms) .returns) ∧
      ((plan.map Planned.path).Nodup ↔ ∀ m ∈ ms, Naming.snake m.className ≠ "api") := by
  have hms : ∀ m ∈ ms, Naming.words m.className ≠ [] :=
    fun m hm hnil => hnamed m hm ((Naming.snake_eq_empty_iff _).2 hnil)
  have hwords : (ms.map fun m => Naming.words m.className).Nodup := by
    rw [List.Nodup, List.pairwise_map] at hdistinct ⊢
    exact hdistinct.imp fun hne heq => hne (Naming.snake_inj.2 heq)
  have hapi : ∀ name, Naming.snake name = "api" ↔ Naming.words name = ["api"] := by
    intro name
    have hform : Naming.snake "api" = "api" := by decide
    have hinj : Naming.snake name = Naming.snake "api" ↔ _ := Naming.snake_inj
    rwa [hform] at hinj
  refine ⟨_, yields_planAll h hms, fun husable => endsIn_planAll husable ms, ?_⟩
  rw [nodup_plannedAt h hfolder hms, nodup_nameOf_allFiles hwords]
  refine forall₂_congr fun m _ => not_congr ?_
  rw [hapi]

/-- The service of a model called `Api` is planned at the path of the transport; the files of other
models all have their own paths. -/
theorem nodup_paths_planAll_service :
    let m : Backend.Manifest := ⟨"manifest.json", .ofTables [], .object [], []⟩
    let p : Pipeline := ⟨m.backend, .standard, none⟩
    let called := fun name => { (default : Model) with className := name }
    (∃ plan, Yields (p.planAll [called "ApiKey", called "User"]) (· = plan) ∧
      EndsIn (p.planAll [called "ApiKey", called "User"]) .returns ∧
      (plan.map Planned.path).Nodup) ∧
    ∃ plan, Yields (p.planAll [called "User", called "Api"]) (· = plan) ∧
      EndsIn (p.planAll [called "User", called "Api"]) .returns ∧
      ¬ (plan.map Planned.path).Nodup := by
  intro m p called
  have husable : p.settings.Usable := Settings.usable_standard
  have hfolder : Function.Injective Folder.section := by
    intro f g
    cases f <;> cases g <;> decide
  constructor
  · obtain ⟨plan, hplan, hreturns, hnodup⟩ := @nodup_paths_planAll p _ _ Dart.laidOut_standard
      hfolder [called "ApiKey", called "User"] (by decide +kernel) (by decide +kernel)
    exact ⟨plan, hplan, hreturns husable, hnodup.2 (by decide +kernel)⟩
  · obtain ⟨plan, hplan, hreturns, hnodup⟩ := @nodup_paths_planAll p _ _ Dart.laidOut_standard
      hfolder [called "User", called "Api"] (by decide +kernel) (by decide +kernel)
    refine ⟨plan, hplan, hreturns husable, fun hall => ?_⟩
    exact hnodup.1 hall (called "Api") (by simp) (by decide)

end DartScaffold.Pipeline
