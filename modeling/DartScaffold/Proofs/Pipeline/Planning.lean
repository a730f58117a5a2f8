/-
**What is planned.**

Planning makes the generators that are going to be needed.  This may fail, and it changes the
workshop; but which files are planned, and where, is told by the folders in the settings, the model
and the names of the groups alone.  The groups come in their own order, however often and in
whatever order they are named, and a group comes with all its files.

Main definitions:

* `Pipeline.Group.chosen` — the groups that are named;
* `Pipeline.transportFile` — the file of the transport;
* `Pipeline.planFiles` — the files of a model in the groups that are named.

Main results:

* `Pipeline.among_texts` — the order and the repetition of names do not count;
* `Pipeline.planFile_eq_ok`, `Pipeline.planTransport_eq_ok` — what is planned lies at its path;
* `Pipeline.yields_planModel_forall` — what is planned for a model is planned for a group of it;
* `Pipeline.yields_planBase`, `Pipeline.yields_planFiles` — **what is planned** for the transport
  and for a model.
-/

import Mathlib
import DartScaffold.Proofs.Occurrences
import DartScaffold.Proofs.Pipeline.Batch

set_option relaxedAutoImplicit false
set_option autoImplicit false

namespace DartScaffold

namespace Pipeline

/-! ### Groups -/

theorem any_isNamed (components : List String) (g : Group) :
    (components.map Datum.text).any g.isNamed = components.contains g.name := by
  rw [List.any_map, List.contains_eq_any_beq]
  refine List.any_congr rfl fun s => ?_
  rw [Bool.eq_iff_iff]
  show Datum.same (.text s) (.text g.name) = true ↔ _
  rw [Datum.same_text_iff, Datum.text.injEq, beq_iff_eq]
  exact eq_comm

/-- The groups that are named, in the order of generation. -/
def Group.chosen (components : List String) : List Group :=
  Group.all.filter fun g => components.contains g.name

/-- The order and the repetition of names do not count. -/
theorem among_texts (components : List String) :
    Group.among (components.eraseDups.map .text) = Group.chosen components := by
  refine List.filter_congr fun g _ => ?_
  rw [any_isNamed, Bool.eq_iff_iff, List.contains_iff_mem, List.contains_iff_mem]
  exact List.mem_eraseDups

/-- With all names all groups are chosen. -/
theorem chosen_names : Group.chosen Group.names = Group.all := by decide

/-! ### Plans -/

/-- A file that is planned lies at its path. -/
theorem planFile_eq_ok {o : OutputSettings} {m : Model} {a : Dart.Artifact} {f : Planned}
    (h : planFile o m a = .ok f) :
    ∃ path, a.path o m = .ok path ∧ f = ⟨label a, path.text, .artifact a m, m.className⟩ := by
  obtain ⟨path, hpath, hf⟩ := exists_of_bind_eq_ok h
  exact ⟨path, hpath, (Except.ok.inj hf).symm⟩

/-- The planned file of the transport. -/
def transportFile (path : Path) : Planned :=
  ⟨label .transport, path.text, .artifact .transport default, ""⟩

theorem planTransport_eq_ok {o : OutputSettings} {plan : List Planned}
    (h : planTransport o = .ok plan) :
    ∃ path, Dart.Artifact.transportPath o = .ok path ∧ plan = [transportFile path] := by
  obtain ⟨path, hpath, hplan⟩ := exists_of_bind_eq_ok h
  exact ⟨path, hpath, (Except.ok.inj hplan).symm⟩

/-- The files of a model in the groups that are named. -/
def planFiles (o : OutputSettings) (m : Model) (components : List String) :
    Except Misuse (List Planned) :=
  ((Group.chosen components).flatMap Group.artifacts).mapM (planFile o m)

/-- Groups that can be planned one after another are planned file by file. -/
theorem mapM_planFile_of_groups {o : OutputSettings} {m : Model} {groups : List Group}
    {plans : List (List Planned)} (h : groups.mapM (planGroup o m) = .ok plans) :
    (groups.flatMap Group.artifacts).mapM (planFile o m) = .ok plans.flatten := by
  induction groups generalizing plans with
  | nil =>
      obtain rfl : [] = plans := Except.ok.inj h
      rfl
  | cons g groups ih =>
      rw [List.mapM_cons] at h
      obtain ⟨plan, hplan, hloop⟩ := exists_of_bind_eq_ok h
      obtain ⟨rest, hrest, hplans⟩ := exists_of_bind_eq_ok hloop
      obtain rfl : plan :: rest = plans := Except.ok.inj hplans
      have hfiles : g.artifacts.mapM (planFile o m) = .ok plan := hplan
      rw [List.flatMap_cons, List.mapM_append, hfiles, ih hrest]
      rfl

variable {p : Pipeline}

/-- **What is planned for the transport.** -/
theorem yields_planBase (p : Pipeline) :
    Yields p.planBase fun plan => planTransport p.settings.output = .ok plan :=
  Yields.bind_any fun _ => Yields.liftMisuse _

/-- What is planned for a group of a model. -/
theorem yields_planGroup (p : Pipeline) (m : Model) (g : Group) :
    Yields (do
      let _ ← p.generator g.component.name
      (planGroup p.settings.output m g : Except Misuse _))
      fun plan => planGroup p.settings.output m g = .ok plan :=
  Yields.bind_any fun _ => Yields.liftMisuse _

/-- What holds of the files of every group of a model holds of what is planned for the model. -/
theorem yields_planModel_forall {m : Model} {P : Planned → Prop}
    (h : ∀ g plan, planGroup p.settings.output m g = .ok plan → ∀ f ∈ plan, P f) (names : Datum) :
    Yields (p.planModel m names) fun plan => ∀ f ∈ plan, P f := by
  unfold planModel
  refine Yields.bind_any fun names => ?_
  refine Yields.bind (Yields.mapM_uses fun g _ => yields_planGroup p m g) fun plans hplans =>
    Yields.pure fun f hf => ?_
  obtain ⟨plan, hplan, hmem⟩ := List.mem_flatten.1 hf
  obtain ⟨g, -, hgroup⟩ := exists_of_mem_mapM hplans hplan
  exact h g plan hgroup f hmem

/-- **What is planned for a model.** -/
theorem yields_planFiles (p : Pipeline) (m : Model) (components : List String) :
    Yields (p.planModel m (.list (components.map .text))) fun plan =>
      planFiles p.settings.output m components = .ok plan := by
  unfold planModel
  rw [Datum.elements_texts]
  show Yields (pure _ >>= _) _
  rw [pure_bind, among_texts]
  -- The generators that are made on the way change the workshop, but not the plan.
  refine Yields.bind (Yields.mapM_uses fun g _ => yields_planGroup p m g) fun plans hplans =>
    Yields.pure ?_
  exact mapM_planFile_of_groups hplans

end Pipeline

end DartScaffold
