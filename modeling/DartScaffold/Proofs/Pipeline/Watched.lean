/-
**What a watched run reports.**

To watch a run changes nothing about it.  A watched computation gives what it gives alone and leaves
the same behind, and what has been reported when it is done is told by what had been reported
before and by what it gives.  Along a sequence and a loop the reports add up, so a watched run that
returns has reported its results: all of them, each once, and in order.

Main definitions:

* `Pipeline.Reports` — what a watched computation does beside one that is not watched.

Main results:

* `Pipeline.Reports.bind`, `Pipeline.Reports.mapM` — how the reports of sequences and loops add up;
* `Pipeline.reports_watchedRun`, `Pipeline.reports_watchedFeature` — the reports of runs;
* `Pipeline.reports_watchedAll` — **a watched run over targets** reports its results.
-/

import Mathlib
import DartScaffold.Pipeline.Progress
import DartScaffold.Proofs.Pipeline.Ending

set_option relaxedAutoImplicit false
set_option autoImplicit false

namespace DartScaffold.Pipeline

variable {α β : Type}

/-- A watched computation does what another one does that is not watched.  When it returns, the
reports that there were before have become those that the second function tells from its result. -/
def Reports (x : Watched α) (y : Work α) (before : Summary) (after : α → Summary) : Prop :=
  ∀ w, ∃ reported, x.run.run (w, before) = ((y.run.run w).1, (y.run.run w).2, reported) ∧
    ∀ a, (y.run.run w).1 = .ok a → reported = after a

namespace Reports

variable {before : Summary}

theorem pure (a : α) {after : α → Summary} (h : before = after a) :
    Reports (pure a) (pure a) before after := by
  intro w
  refine ⟨before, rfl, fun b hb => ?_⟩
  obtain rfl : a = b := Except.ok.inj hb
  exact h

/-- Behind a fault nothing is told about the reports. -/
theorem throw (fault : Fault) (after : α → Summary) :
    Reports (throw fault) (throw fault) before after :=
  fun _ => ⟨before, rfl, fun _ h => nomatch h⟩

/-- A step without reports. -/
theorem ofWork (x : Work α) : Reports (Watched.ofWork x) x before fun _ => before :=
  fun _ => ⟨before, rfl, fun _ _ => rfl⟩

theorem liftMisuse (x : Except Misuse α) :
    Reports (liftM x) (liftM x) before fun _ => before := by
  intro w
  refine ⟨before, ?_, fun _ _ => rfl⟩
  cases x <;> rfl

theorem liftFault (x : Except Fault α) :
    Reports (liftM x) (liftM x) before fun _ => before := by
  intro w
  refine ⟨before, ?_, fun _ _ => rfl⟩
  cases x <;> rfl

/-- What was reported in the first step is there before the second one. -/
theorem bind {x : Watched α} {y : Work α} {f : α → Watched β} {g : α → Work β}
    {after : α → Summary} {last : β → Summary} (hx : Reports x y before after)
    (hf : ∀ a, Reports (f a) (g a) (after a) last) :
    Reports (x >>= f) (y >>= g) before last := by
  intro w
  obtain ⟨reported, hrun, hreported⟩ := hx w
  rw [run_bind, run_bind, hrun]
  rcases hy : y.run.run w with ⟨r, w'⟩
  rw [hy] at hreported
  cases r with
  | error fault => exact ⟨reported, rfl, fun _ h => nomatch h⟩
  | ok a =>
      -- The first step returned, so the reports are known that the second one begins with.
      obtain rfl := hreported a rfl
      exact hf a w'

/-- A report adds to what was reported before. -/
theorem bind_report (r : FileResult) {x : Watched α} {y : Work α} {after : α → Summary}
    (h : Reports x y (before ++ [r]) after) :
    Reports (Watched.report r >>= fun _ => x) y before after := by
  intro w
  rw [run_bind]
  exact h w

/-- A loop whose steps report something each reports all of it. -/
theorem mapM {f : α → Watched β} {g : α → Work β} {own : β → Summary} {as : List α}
    (h : ∀ a ∈ as, ∀ before, Reports (f a) (g a) before fun b => before ++ own b) :
    Reports (as.mapM f) (as.mapM g) before fun bs => before ++ bs.flatMap own := by
  -- What there is before the rest of the loop are also the reports of its first step.
  induction as generalizing before with
  | nil => exact pure [] (List.append_nil _).symm
  | cons a as ih =>
      rw [List.mapM_cons, List.mapM_cons]
      refine bind (h a (List.mem_cons_self ..) before) fun b => ?_
      refine bind (ih fun c hc => h c (List.mem_cons_of_mem _ hc)) fun bs => pure _ ?_
      rw [List.flatMap_cons, List.append_assoc]

theorem run_reports (x : Watched α) (w : Workshop) :
    x.reports.run.run w = ((x.run.run (w, [])).1.map fun a => (a, (x.run.run (w, [])).2.2),
      (x.run.run (w, [])).2.1) := rfl

/-- What reports its results gives them twice: as its result, and as what was reported. -/
theorem reports_eq {x : Watched Summary} {y : Work Summary}
    (h : Reports x y [] fun s => [] ++ s) :
    x.reports = (do
      let s ← y
      return (s, s)) := by
  funext w
  obtain ⟨reported, hrun, hreported⟩ := h w
  have hresult := run_reports x w
  rw [hrun] at hresult
  refine hresult.trans ?_
  rcases hy : y.run.run w with ⟨r, w'⟩
  rw [hy] at hreported
  refine Eq.trans ?_ (run_bind y _ w).symm
  rw [hy]
  cases r with
  | error fault => rfl
  | ok s =>
      obtain rfl := hreported s rfl
      rfl

end Reports

/-! ### Runs -/

variable (p : Pipeline)

theorem reports_watchedExecute (f : Planned) (before : Summary) :
    Reports (p.watchedExecute f) (p.execute f) before fun r => before ++ [r] := by
  have hsame : p.execute f = p.execute f >>= fun r => Pure.pure r := (bind_pure _).symm
  rw [hsame]
  unfold watchedExecute
  exact (Reports.ofWork (p.execute f)).bind fun r => Reports.bind_report r (Reports.pure r rfl)

/-- The results of planned files are reported. -/
theorem reports_watchedRun (plan : List Planned) (before : Summary) :
    Reports (p.watchedRun plan) (p.run plan) before fun s => before ++ s := by
  have hloop : Reports (p.watchedRun plan) (p.run plan) before
      fun s => before ++ s.flatMap fun r => [r] :=
    Reports.mapM fun f _ before => reports_watchedExecute p f before
  simp only [List.flatMap_singleton'] at hloop
  exact hloop

/-- The results for a model are reported. -/
theorem reports_watchedFeature (model groups : Datum) (withRoutes : Bool) (before : Summary) :
    Reports (p.watchedFeature model groups withRoutes) (p.generateFeature model groups withRoutes)
      before fun s => before ++ s := by
  unfold watchedFeature generateFeature
  refine (Reports.ofWork (Work.attempt (p.analyze model withRoutes))).bind fun result => ?_
  cases result with
  | ok m =>
      exact (Reports.ofWork (p.planModel m groups)).bind fun plan =>
        reports_watchedRun p plan before
  | error fault =>
      by_cases hfault : isAnalysisFault fault = true
      · simp only [hfault, if_true]
        exact (Reports.ofWork _).bind fun _ => Reports.bind_report _ (Reports.pure _ rfl)
      · simp only [hfault]
        exact Reports.throw fault _

theorem reports_watchedUnlessExcluded (groups model : Datum) (before : Summary) :
    Reports (p.watchedUnlessExcluded groups model) (p.generateUnlessExcluded groups model) before
      fun s => before ++ s := by
  unfold watchedUnlessExcluded generateUnlessExcluded
  refine (Reports.liftMisuse _).bind fun out => ?_
  cases out with
  | true =>
      exact (Reports.ofWork _).bind fun _ => Reports.pure [] (List.append_nil _).symm
  | false => exact reports_watchedFeature p model groups false before

/-- The results for several targets are reported behind those that were there before. -/
theorem reports_mapM_targets (groups : Datum) (base : Summary) (targets : List Datum)
    (before : Summary) :
    Reports (do
        let rest ← targets.mapM (p.watchedUnlessExcluded groups)
        return base ++ rest.flatten)
      (do
        let rest ← targets.mapM (p.generateUnlessExcluded groups)
        return base ++ rest.flatten)
      (before ++ base) fun s => before ++ s := by
  have hrest : Reports (targets.mapM (p.watchedUnlessExcluded groups))
      (targets.mapM (p.generateUnlessExcluded groups)) (before ++ base)
      fun rows => before ++ base ++ rows.flatMap fun s => s :=
    Reports.mapM fun t _ before => reports_watchedUnlessExcluded p groups t before
  refine hrest.bind fun rows => Reports.pure _ ?_
  rw [List.flatMap_id', List.append_assoc]

/-- **A watched run over targets** reports its results. -/
theorem reports_watchedAll (models groups : Datum) (before : Summary) :
    Reports (p.watchedAll models groups) (p.generateAll models groups) before
      fun s => before ++ s := by
  unfold watchedAll generateAll
  extract_lets rest rest'
  have hrest : ∀ targets, Reports (rest targets) (rest' targets) before fun s => before ++ s := by
    intro targets
    refine (Reports.liftMisuse _).bind fun names => ?_
    by_cases hservice : names.any Group.service.isNamed = true
    · -- The transport comes first; its results are there before those of the targets.
      simp only [hservice, if_true]
      refine (Reports.ofWork p.planBase).bind fun plan => ?_
      exact (reports_watchedRun p plan before).bind fun base =>
        reports_mapM_targets p groups base targets before
    · simp only [hservice]
      have hnone := reports_mapM_targets p groups [] targets before
      rw [List.append_nil] at hnone
      exact hnone
  cases models with
  | null => exact (Reports.liftFault _).bind fun names => hrest _
  | _ => exact (Reports.liftMisuse _).bind hrest

/-- So a run over targets gives the same when it is watched, and what is reported are its results
in order. -/
theorem reports_watchedAll_eq (models groups : Datum) :
    (p.watchedAll models groups).reports = (do
      let s ← p.generateAll models groups
      return (s, s)) :=
  (reports_watchedAll p models groups []).reports_eq

end DartScaffold.Pipeline
