/-
**The results of a run.**

A run over targets has a result for everything that it sets out to do, and for nothing else.  The
transport comes first, if services are asked for.  A target that is left out has no result, one
that cannot be analyzed has a single one, and any other one has a result for each file that is
planned for it, in the order of the plan.  Whether files can be generated and written only decides
what became of them.  So the number of results is known beforehand, if each target can be analyzed.

Main definitions:

* `Pipeline.labels` — what the files of a model are called, for the components that are asked for;
* `Pipeline.IsBase`, `Pipeline.IsRow` — results for the transport, and for a target;
* `Pipeline.Summary.Accounts` — results for a run over targets.

Main results:

* `Pipeline.yields_run_heading` — planned files have a result each, in order;
* `Pipeline.yields_row` — the results for one target;
* `Pipeline.yields_accounts`, `Pipeline.endsIn_targets` — the results for several targets, and when
  there are any;
* `Pipeline.estimate_texts` — the number of files that are planned;
* `Pipeline.watchedAll_accounts` — **what a run over targets results in**, and what it reports.
-/

import Mathlib
import DartScaffold.Proofs.Pipeline.Planning
import DartScaffold.Proofs.Pipeline.Watched

set_option relaxedAutoImplicit false
set_option autoImplicit false

namespace DartScaffold.Pipeline

open Dart (Artifact)

variable {p : Pipeline}

/-! ### Planned files -/

/-- What a planned file is known by in its result. -/
def Planned.heading (f : Planned) : String × String × String := (f.path, f.component, f.model)

/-- What a result is about, whatever became of it. -/
def FileResult.heading (r : FileResult) : String × String × String := (r.path, r.component, r.model)

theorem yields_execute_heading (p : Pipeline) (f : Planned) :
    Yields (p.execute f) fun r => r.heading = f.heading := by
  unfold execute
  refine Yields.bind_any fun result => ?_
  cases result with
  | ok status => exact Yields.pure rfl
  | error fault => exact Yields.bind_any fun _ => Yields.pure rfl

/-- Planned files have a result each, in order. -/
theorem yields_run_heading (p : Pipeline) (plan : List Planned) :
    Yields (p.run plan) fun s => s.map FileResult.heading = plan.map Planned.heading := by
  intro w s w' hrun
  have hrows := Yields.mapM_forall₂ (fun f (_ : f ∈ plan) => yields_execute_heading p f) w s w' hrun
  exact map_eq_of_forall₂ hrows fun _ _ h => h

/-- What the files of a model are called, in the order of generation, for the components that are
asked for. -/
def labels (components : List String) : List String :=
  ([("model", "model"), ("service", "service"), ("widgets", "widget:form"),
    ("widgets", "widget:list"), ("widgets", "widget:card"), ("screens", "screen:list"),
    ("screens", "screen:detail"), ("screens", "screen:create"), ("screens", "screen:edit")].filter
      fun file => components.contains file.1).map Prod.snd

theorem labels_eq (components : List String) :
    labels components = ((Group.chosen components).flatMap Group.artifacts).map label := by
  unfold labels Group.chosen Group.all
  simp only [List.filter_cons, Group.name, List.filter_nil]
  cases components.contains "model" <;> cases components.contains "service" <;>
    cases components.contains "widgets" <;> cases components.contains "screens" <;> rfl

/-- The files of a model are called so, and belong to the model. -/
theorem heading_planFiles {o : OutputSettings} {m : Model} {components : List String}
    {plan : List Planned} (h : planFiles o m components = .ok plan) :
    (plan.map fun f => (f.component, f.model)) =
      (labels components).map fun l => (l, m.className) := by
  have hfile : ∀ (a : Artifact) (f : Planned), planFile o m a = .ok f →
      (f.component, f.model) = (label a, m.className) := by
    intro a f ha
    obtain ⟨path, -, rfl⟩ := planFile_eq_ok ha
    rfl
  rw [labels_eq, List.map_map]
  exact map_eq_of_forall₂ (forall₂_of_mapM h) hfile

/-! ### Results for a target -/

/-- Results for the transport: there is one if services are asked for. -/
def IsBase (p : Pipeline) (components : List String) (s : Summary) : Prop :=
  if "service" ∈ components then
    ∃ path status reason, Artifact.transportPath p.settings.output = .ok path ∧
      s = [⟨path.text, status, "api_base", "", reason⟩]
  else s = []

/-- Results for a target.  If it is not left out, they go back to an analysis of it. -/
inductive IsRow (p : Pipeline) (components : List String) (target : String) : Summary → Prop
  /-- The target is left out. -/
  | excluded : isExcluded p.settings (.text target) = .ok true → IsRow p components target []
  /-- It cannot be analyzed. -/
  | unanalyzed (w : Workshop) (fault : Fault) :
    isExcluded p.settings (.text target) = .ok false →
    ((p.analyze (.text target) false).run.run w).1 = .error fault → isAnalysisFault fault = true →
    IsRow p components target [⟨target, .failed, "analysis", target, fault.message⟩]
  /-- Each file that is planned for it has a result. -/
  | files (w : Workshop) (m : Model) (plan : List Planned) (s : Summary) :
    isExcluded p.settings (.text target) = .ok false →
    ((p.analyze (.text target) false).run.run w).1 = .ok m →
    planFiles p.settings.output m components = .ok plan →
    s.map FileResult.heading = plan.map Planned.heading →
    (s.map fun r => (r.component, r.model)) =
      ((labels components).map fun l => (l, m.className)) →
    IsRow p components target s

/-- Results for a run over targets: for the transport, and for one target after another. -/
def Summary.Accounts (p : Pipeline) (components targets : List String) (s : Summary) : Prop :=
  ∃ base rows, s = base ++ rows.flatten ∧ IsBase p components base ∧
    List.Forall₂ (IsRow p components) targets rows

theorem yields_isBase (p : Pipeline) (components : List String) :
    Yields (p.base components) (IsBase p components) := by
  unfold base IsBase
  rw [any_isNamed, Group.name]
  by_cases hservice : "service" ∈ components
  · rw [if_pos (List.contains_iff_mem.2 hservice)]
    simp only [hservice, if_true]
    refine Yields.bind (yields_planBase p) fun plan hplan => ?_
    intro w s w' hrun
    have hheading := yields_run_heading p plan w s w' hrun
    obtain ⟨path, hpath, rfl⟩ := planTransport_eq_ok hplan
    obtain ⟨r, rfl, hr⟩ := List.map_eq_singleton_iff.1 hheading
    obtain ⟨rpath, status, component, model, reason⟩ := r
    obtain ⟨rfl, hrest⟩ := Prod.mk.inj hr
    obtain ⟨rfl, rfl⟩ := Prod.mk.inj hrest
    exact ⟨path, status, reason, hpath, rfl⟩
  · have hnot : ¬ components.contains "service" = true := by
      rw [List.contains_iff_mem]
      exact hservice
    rw [if_neg hnot]
    simp only [hservice]
    exact Yields.pure rfl

/-- The results for one target. -/
theorem yields_row (p : Pipeline) (components : List String) (target : String) :
    Yields (p.generateUnlessExcluded (.list (components.map .text)) (.text target))
      (IsRow p components target) := by
  unfold generateUnlessExcluded
  refine Yields.bind (Yields.liftMisuse _) fun out hout => ?_
  cases out with
  | true => exact Yields.bind_any fun _ => Yields.pure (.excluded hout)
  | false =>
      show Yields (p.generateFeature (.text target) _ false) _
      unfold generateFeature
      refine Yields.bind_attempt_run fun w => ?_
      cases hanalyze : ((p.analyze (.text target) false).run.run w).1 with
      | ok m =>
          refine Yields.bind (yields_planFiles p m components) fun plan hplan => ?_
          -- The plan is known by now, and what is run of it has the headings of the plan.
          intro w' s w'' hrun
          have hheading := yields_run_heading p plan w' s w'' hrun
          refine .files w m plan s hout hanalyze hplan hheading ?_
          have hcalled := congrArg (List.map Prod.snd) hheading
          rw [List.map_map, List.map_map] at hcalled
          exact hcalled.trans (heading_planFiles hplan)
      | error fault =>
          by_cases hfault : isAnalysisFault fault = true
          · simp only [hfault, if_true]
            exact Yields.bind_any fun _ => Yields.pure (.unanalyzed w fault hout hanalyze hfault)
          · simp only [hfault]
            exact Yields.throw fault

/-! ### Runs over targets -/

/-- The results for several targets. -/
theorem yields_accounts (p : Pipeline) (components targets : List String) :
    Yields (p.generateAll (.list (targets.map .text)) (.list (components.map .text)))
      (Summary.Accounts p components targets) := by
  rw [generateAll_texts]
  refine Yields.bind (yields_isBase p components) fun base hbase => ?_
  refine Yields.bind (Yields.mapM_forall₂ fun t _ => yields_row p components t) fun rows hrows => ?_
  exact Yields.pure ⟨base, rows, rfl, hbase, hrows⟩

/-- A target has results if its analysis never ends in a fault that breaks off the run. -/
theorem endsIn_generateFeature_of_ne (h : p.settings.Usable) {target : String} {withRoutes : Bool}
    (hanalyze : ∀ w, Ending.of ((p.analyze (.text target) withRoutes).run.run w).1 ≠ .escapes)
    (components : List String) :
    EndsIn (p.generateFeature (.text target) (.list (components.map .text)) withRoutes)
      .returns := by
  unfold generateFeature
  intro w
  rw [run_bind_attempt]
  -- Only what the analysis comes to counts, and not the workshop that it leaves behind.
  have hresult := hanalyze w
  generalize (p.analyze (.text target) withRoutes).run.run w = result at hresult ⊢
  obtain ⟨r, w'⟩ := result
  cases r with
  | ok m => exact ((endsIn_planModel h m components).bind fun plan => endsIn_run p plan) w'
  | error fault =>
      have hfault : isAnalysisFault fault = true := by
        by_contra hfault
        exact hresult (if_neg hfault)
      simp only [hfault, if_true]
      exact ((EndsIn.ofRun (EndsIn.record _ _)).bind fun _ => EndsIn.pure _) w'

/-- A run over targets has results if no analysis of one that is not left out ends in a fault that
breaks it off. -/
theorem endsIn_targets (h : p.settings.Usable) {components targets : List String}
    (hanalyze : ∀ t ∈ targets, isExcluded p.settings (.text t) = .ok false →
      ∀ w, Ending.of ((p.analyze (.text t) false).run.run w).1 ≠ .escapes) :
    EndsIn (p.generateAll (.list (targets.map .text)) (.list (components.map .text))) .returns := by
  rw [generateAll_texts]
  refine (endsIn_base h components).bind fun base => ?_
  refine (EndsIn.mapM fun t ht => ?_).bind fun rows => EndsIn.pure _
  rw [generateUnlessExcluded_eq h]
  cases hleft : p.isLeftOut t with
  | true => exact (EndsIn.ofRun (EndsIn.record _ _)).bind fun _ => EndsIn.pure _
  | false =>
      have hout : isExcluded p.settings (.text t) = .ok false := by rw [isExcluded_eq h, hleft]
      exact endsIn_generateFeature_of_ne h (hanalyze t ht hout) components

/-! ### What became of the files -/

namespace Summary

/-- Each result is that of a file that was written or skipped, or of a failure. -/
theorem perm_partition (s : Summary) :
    (s.succeeded ++ s.skipped ++ s.failed).Perm s := by
  induction s with
  | nil => exact List.Perm.nil
  | cons r s ih =>
      -- The first result is the head of one of the three lists, and the others have not changed.
      have hcons : ∀ status, withStatus (r :: s) status =
          if r.status = status then r :: withStatus s status else withStatus s status := by
        intro status
        unfold withStatus
        rw [List.filter_cons]
        by_cases hr : r.status = status <;> simp [hr]
      unfold succeeded skipped failed at ih ⊢
      rw [hcons, hcons, hcons]
      cases hr : r.status with
      | written => exact ih.cons r
      | skipped =>
          simp only [reduceCtorEq, if_false, if_true, List.append_assoc, List.cons_append]
          rw [List.append_assoc] at ih
          exact List.perm_middle.trans (ih.cons r)
      | failed => exact List.perm_middle.trans (ih.cons r)

/-- A run fails exactly if something failed. -/
theorem exitCode_eq_one_iff (s : Summary) : s.exitCode = 1 ↔ s.failed ≠ [] := by
  unfold exitCode
  cases s.failed with
  | nil => decide
  | cons r rest => simp

end Summary

/-! ### How many files are planned -/

theorem named?_name (g : Group) : Group.named? (.text g.name) = some g := by
  cases g <;> decide

theorem name_injective : Function.Injective Group.name := by
  intro g g' h
  have hsome := congrArg (fun name => Group.named? (.text name)) h
  rw [named?_name, named?_name] at hsome
  exact Option.some_inj.1 hsome

/-- The files in some groups, each of which is named. -/
theorem filesPerModel_names (gs : List Group) :
    filesPerModel (gs.map fun g => .text g.name) = .ok (gs.flatMap Group.artifacts).length := by
  let count : Datum → Nat := fun d => ((Group.named? d).map fun g => g.artifacts.length).getD 0
  have hcount : ∀ g ∈ gs, count (.text g.name) = g.artifacts.length := by
    intro g _
    show ((Group.named? (.text g.name)).map _).getD 0 = _
    rw [named?_name]
    rfl
  unfold filesPerModel
  rw [mapM_eq_ok (g := count) ?_]
  · show Except.ok (((gs.map fun g => Datum.text g.name).map count).foldl _ 0) = _
    have hmap : (gs.map fun g => Datum.text g.name).map count =
        gs.map fun g => g.artifacts.length := by
      rw [List.map_map]
      exact List.map_congr_left hcount
    rw [hmap, List.length_flatMap, List.sum_eq_foldl]
  · intro d hd
    obtain ⟨g, hg, rfl⟩ := List.mem_map.1 hd
    rw [hcount g hg, named?_name]
    rfl

/-- Names of groups that are asked for, each once, are those of the groups that are chosen. -/
theorem exists_perm_chosen {components : List String} (h : ∀ c ∈ components, c ∈ Group.names) :
    ∃ gs : List Group, components.eraseDups = gs.map Group.name ∧
      gs.Perm (Group.chosen components) := by
  have hnamed : ∀ cs : List String, (∀ c ∈ cs, c ∈ Group.names) →
      ∃ gs : List Group, cs = gs.map Group.name := by
    intro cs hcs
    induction cs with
    | nil => exact ⟨[], rfl⟩
    | cons c cs ih =>
        obtain ⟨g, -, hg⟩ := List.mem_map.1 (hcs c (List.mem_cons_self ..))
        obtain ⟨gs, hgs⟩ := ih fun d hd => hcs d (List.mem_cons_of_mem _ hd)
        exact ⟨g :: gs, by rw [List.map_cons, hg, hgs]⟩
  obtain ⟨gs, hgs⟩ := hnamed components.eraseDups fun c hc => h c (List.mem_eraseDups.1 hc)
  -- Both lists hold each group once, so it is enough that they hold the same ones.
  refine ⟨gs, hgs, (List.perm_ext_iff_of_nodup ?_ ?_).2 fun g => ?_⟩
  · have honce := nodup_eraseDups components
    rw [hgs] at honce
    exact honce.of_map
  · have hall : Group.all.Nodup := by decide
    exact hall.filter _
  · have hall : g ∈ Group.all := by cases g <;> decide
    have hmem : g.name ∈ components ↔ g ∈ gs := by
      rw [← List.mem_eraseDups, hgs, List.mem_map_of_injective name_injective]
    rw [Group.chosen, List.mem_filter, List.contains_iff_mem, hmem]
    exact ⟨fun hg => ⟨hall, hg⟩, fun hg => hg.2⟩

/-- The number of files that are planned for a number of models. -/
theorem estimate_texts {components : List String} (h : ∀ c ∈ components, c ∈ Group.names)
    (n : Nat) :
    estimate (.int n) (.list (components.map .text)) true =
      .ok (.int (n * (labels components).length +
        if "service" ∈ components then 1 else 0 : Nat)) := by
  obtain ⟨gs, hgs, hperm⟩ := exists_perm_chosen h
  have hfiles : filesPerModel (components.eraseDups.map .text) =
      .ok (labels components).length := by
    rw [hgs, List.map_map]
    refine (filesPerModel_names gs).trans ?_
    rw [labels_eq, List.length_map, (hperm.flatMap_right Group.artifacts).length_eq]
  have hbase : (components.eraseDups.map Datum.text).any Group.service.isNamed =
      decide ("service" ∈ components) := by
    rw [any_isNamed, Bool.eq_iff_iff, List.contains_iff_mem, List.mem_eraseDups, decide_eq_true_eq]
    rfl
  unfold estimate
  rw [Datum.elements_texts]
  show (filesPerModel (components.eraseDups.map .text) >>= _) = _
  rw [hfiles, hbase]
  by_cases hservice : "service" ∈ components
  · simp [hservice]
  · simp [hservice]

/-- A target that is analyzed has a result for each planned file. -/
theorem IsRow.length_eq {components : List String} {target : String} {s : Summary}
    (h : IsRow p components target s) (hout : isExcluded p.settings (.text target) = .ok false)
    (hreturns : EndsIn (p.analyze (.text target) false) .returns) :
    s.length = (labels components).length := by
  cases h with
  | excluded hexcluded =>
      rw [hout] at hexcluded
      cases hexcluded
  | unanalyzed w fault _ hanalyze _ =>
      obtain ⟨m, hm⟩ := (Ending.of_eq_returns_iff _).1 (hreturns w)
      rw [hanalyze] at hm
      cases hm
  | files w m plan s _ _ _ _ hlabels =>
      have hlength := congrArg List.length hlabels
      rwa [List.length_map, List.length_map] at hlength

/-- The number of results, if each target is analyzed. -/
theorem Summary.Accounts.length_eq {components targets : List String} {s : Summary}
    (h : s.Accounts p components targets)
    (hall : ∀ t ∈ targets, isExcluded p.settings (.text t) = .ok false ∧
      EndsIn (p.analyze (.text t) false) .returns) :
    s.length = targets.length * (labels components).length +
      if "service" ∈ components then 1 else 0 := by
  obtain ⟨base, rows, rfl, hbase, hrows⟩ := h
  have hlength : rows.flatten.length = targets.length * (labels components).length := by
    induction hrows with
    | nil => exact (Nat.zero_mul _).symm
    | @cons t row targets rows hrow _ ih =>
        have ih := ih fun u hu => hall u (List.mem_cons_of_mem _ hu)
        obtain ⟨hout, hreturns⟩ := hall t (List.mem_cons_self ..)
        rw [List.flatten_cons, List.length_append, hrow.length_eq hout hreturns, ih,
          List.length_cons, Nat.succ_mul, Nat.add_comm]
  rw [List.length_append, hlength, Nat.add_comm]
  congr 1
  unfold IsBase at hbase
  by_cases hservice : "service" ∈ components
  · rw [if_pos hservice] at hbase ⊢
    obtain ⟨path, status, reason, -, rfl⟩ := hbase
    rfl
  · rw [if_neg hservice] at hbase ⊢
    rw [hbase]
    rfl

/-! ### What a run results in -/

/-- **What a run over targets results in.**  With settings that can be worked with it returns, if
each analysis of a target that is not left out returns or ends in a fault that is recorded.  Any
run that returns has the results that it accounts for, and has reported them in order.  They are
divided into those that succeeded, were skipped, and failed; the code is one exactly if something
failed; and if every target can be analyzed and none is left out, there are as many results as were
estimated. -/
theorem watchedAll_accounts (p : Pipeline) {components : List String}
    (hcomponents : ∀ c ∈ components, c ∈ Group.names) (targets : List String) :
    (p.settings.Usable →
      (∀ t ∈ targets, isExcluded p.settings (.text t) = .ok false →
        ∀ w, Ending.of ((p.analyze (.text t) false).run.run w).1 ≠ .escapes) →
      ∀ w, ∃ summary w', (p.watchedAll (.list (targets.map .text))
        (.list (components.map .text))).reports.run.run w = (.ok (summary, summary), w')) ∧
    ∀ w summary reported w', (p.watchedAll (.list (targets.map .text))
        (.list (components.map .text))).reports.run.run w = (.ok (summary, reported), w') →
      reported = summary ∧ summary.Accounts p components targets ∧
      (summary.succeeded ++ summary.skipped ++ summary.failed).Perm summary ∧
      (summary.exitCode = 1 ↔ summary.failed ≠ []) ∧
      ((∀ t ∈ targets, isExcluded p.settings (.text t) = .ok false ∧
          EndsIn (p.analyze (.text t) false) .returns) →
        estimate (.int targets.length) (.list (components.map .text)) true =
          .ok (.int summary.length)) := by
  rw [reports_watchedAll_eq]
  constructor
  · intro husable hanalyze w
    obtain ⟨summary, w', hrun⟩ := (EndsIn.exists_run_iff w).2 (endsIn_targets husable hanalyze w)
    refine ⟨summary, w', ?_⟩
    rw [run_bind, hrun]
    rfl
  · intro w summary reported w' hrun
    obtain ⟨s, w'', hs, hpair⟩ := run_bind_eq_ok hrun
    obtain ⟨rfl, rfl⟩ := Prod.mk.inj (Except.ok.inj (Prod.mk.inj hpair).1)
    have haccounts := yields_accounts p components targets w s w'' hs
    refine ⟨rfl, haccounts, s.perm_partition, s.exitCode_eq_one_iff, fun hall => ?_⟩
    rw [estimate_texts hcomponents, haccounts.length_eq hall]

/-- A run over a model and a name that no model has. -/
theorem watchedAll_accounts_missing :
    let m : Backend.Manifest :=
      ⟨"manifest.json", .ofTables [], .object (Backend.asObjects [("Post", [])]), []⟩
    let p : Pipeline := ⟨m.backend, .standard, none⟩
    let w := Workshop.start (Session.start .empty [] Web.unreachable) false
    (∃ summary w', (p.watchedAll (.list [.text "Post", .text "Missing"])
        (.list [.text "service", .text "model"])).reports.run.run w = (.ok (summary, summary), w') ∧
      summary.Accounts p ["service", "model"] ["Post", "Missing"]) ∧
    ∃ summary w', (p.watchedAll (.list [.text "Post"])
        (.list [.text "service", .text "model"])).reports.run.run w = (.ok (summary, summary), w') ∧
      estimate (.int 1) (.list [.text "service", .text "model"]) true =
        .ok (.int summary.length) := by
  intro m p w
  have hcomponents : ∀ c ∈ ["service", "model"], c ∈ Group.names := by decide
  have hends : ∀ t, EndsIn (p.analyze (.text t) false)
      (Backend.targetEnding p.settings.analysis m.schema [("Post", [])] t) :=
    fun t => endsIn_analyze rfl rfl t
  have hpost : Backend.targetEnding p.settings.analysis m.schema [("Post", [])] "Post" =
      .returns := by decide +kernel
  have hmissing : Backend.targetEnding p.settings.analysis m.schema [("Post", [])] "Missing" =
      .recorded := by decide +kernel
  constructor
  · obtain ⟨hreturns, haccounts⟩ := watchedAll_accounts p hcomponents ["Post", "Missing"]
    have hanalyze : ∀ t ∈ ["Post", "Missing"], isExcluded p.settings (.text t) = .ok false →
        ∀ w, Ending.of ((p.analyze (.text t) false).run.run w).1 ≠ .escapes := by
      intro t ht _ w
      rw [hends t w]
      simp only [List.mem_cons, List.not_mem_nil, or_false] at ht
      rcases ht with rfl | rfl
      · rw [hpost]
        decide
      · rw [hmissing]
        decide
    obtain ⟨summary, w', hrun⟩ := hreturns Settings.usable_standard hanalyze w
    exact ⟨summary, w', hrun, (haccounts w summary summary w' hrun).2.1⟩
  · obtain ⟨hreturns, haccounts⟩ := watchedAll_accounts p hcomponents ["Post"]
    have hall : ∀ t ∈ ["Post"], isExcluded p.settings (.text t) = .ok false ∧
        EndsIn (p.analyze (.text t) false) .returns := by
      intro t ht
      rw [List.mem_singleton.1 ht]
      exact ⟨by decide +kernel, hpost ▸ hends "Post"⟩
    have hanalyze : ∀ t ∈ ["Post"], isExcluded p.settings (.text t) = .ok false →
        ∀ w, Ending.of ((p.analyze (.text t) false).run.run w).1 ≠ .escapes := by
      intro t ht _ w
      rw [(hall t ht).2 w]
      decide
    obtain ⟨summary, w', hrun⟩ := hreturns Settings.usable_standard hanalyze w
    exact ⟨summary, w', hrun, (haccounts w summary summary w' hrun).2.2.2.2 hall⟩

end DartScaffold.Pipeline
