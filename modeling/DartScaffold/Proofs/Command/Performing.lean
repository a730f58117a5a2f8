/-
**What carrying out a task does.**

A task is about one model or about many.  If services are among its components, the transport comes
first: for a single model it is generated only if nothing is at its path, for many models it is a
planned file like any other.  Then one model is served after another, unless it is left out.  That
is what a task gathers; at the end the results are shown, and the exit code is that of the results.
If no model is chosen, nothing is done, and that is a success.

Main definitions:

* `Command.selectedModels`, `Command.Task.targets`, `Command.Task.components` — what a task is
  about;
* `Command.Provides`, `Command.Serves` — what it does about the transport, and for one of its
  models;
* `Command.Carries`, `Command.resultsOf`, `Command.turnsOf` — all that it does;
* `Command.PlansFor` — what is planned for one of its models.

Main results:

* `Command.yields_chosenModels` — the models are chosen by the settings and the backend alone;
* `Command.transportIf_cases`, `Command.takes_gatherMany` — the two ways of coming by the transport;
* `Command.gather_cases`, `Command.perform_cases` — **what carrying out a task does**;
* `Command.Carries.of_failed` — if nothing failed, each result is that of a planned file.
-/

import Mathlib
import DartScaffold.Proofs.Command.Gathering
import DartScaffold.Proofs.Pipeline.Turns

set_option relaxedAutoImplicit false
set_option autoImplicit false

namespace DartScaffold.Command

open Pipeline (Work Workshop Group Summary FileResult Turn Takes Passes Attends AttendsAmong Planned
  transportFile planFiles isExcluded)

variable {c : Console} {p : Pipeline} {w w' : Workshop} {t : Task} {s : Summary}

/-! ### What a task is about -/

/-- The models that are named between commas and not left out, or all that are not left out. -/
def selectedModels (p : Pipeline) (models : Value) : Except Fault (List String) :=
  match models.nonempty? with
  | none => p.availableModels
  | some names =>
    (wantedNames names).filterM fun name => do
      return !(← (Pipeline.isExcluded p.settings (.text name) : Except Misuse Bool))

namespace Task

/-- The models that a task is about. -/
def targets (p : Pipeline) : Task → Except Fault (List String)
  | .model name | .service name _ | .feature name _ => .ok [name]
  | .everything models _ _ => selectedModels p models
  | .list => .ok []

/-- The components that a task generates. -/
def components : Task → List String
  | .model _ => [Group.model.name]
  | .service _ _ => [Group.service.name]
  | t => t.groups.map Group.name

/-- A task is about many models, not about a single one. -/
def isMany : Task → Bool
  | .everything .. => true
  | _ => false

/-- A service may be generated with the routes of its model. -/
def withRoutes : Task → Bool
  | .service _ withRoutes => withRoutes
  | _ => false

end Task

/-! ### Selecting -/

/-- A filter whose steps give what checks give alone. -/
theorem yields_filterM {α σ : Type} {f : α → ExceptT Fault (StateM σ) Bool}
    {g : α → Except Fault Bool} (h : ∀ a, Yields (f a) fun b => g a = .ok b) (as : List α) :
    Yields (as.filterM f) fun bs => as.filterM g = .ok bs := by
  have hloop : ∀ acc, Yields (List.filterAuxM f as acc) fun bs =>
      List.filterAuxM g as acc = .ok bs := by
    induction as with
    | nil => exact fun acc => .pure rfl
    | cons a as ih =>
        intro acc
        refine (h a).bind fun b hb => ?_
        intro s bs s' hrun
        have hrest := ih _ s bs s' hrun
        show (g a >>= fun b => List.filterAuxM g as _) = _
        rw [hb]
        exact hrest
  refine (hloop []).bind fun bs hbs => .pure ?_
  show (List.filterAuxM g as [] >>= fun bs => Pure.pure bs.reverse) = _
  rw [hbs]
  rfl

theorem retains_filterM {α σ γ : Type} {view : σ → γ} {f : α → ExceptT Fault (StateM σ) Bool}
    (h : ∀ a, Retains view (f a)) (as : List α) : Retains view (as.filterM f) := by
  have hloop : ∀ acc, Retains view (List.filterAuxM f as acc) := by
    induction as with
    | nil => exact fun acc => .pure _
    | cons a as ih => exact fun acc => (h a).bind fun b => ih _
  exact (hloop []).bind fun bs => .pure _

/-- Which models are chosen is told by the settings, the backend and what was asked for. -/
theorem yields_chosenModels (c : Console) (p : Pipeline) (models : Value) :
    Yields (chosenModels c p models) fun chosen => selectedModels p models = .ok chosen := by
  unfold chosenModels selectedModels
  cases models.nonempty? with
  | none =>
      intro s chosen s' hrun
      cases havailable : p.availableModels with
      | error f =>
          rw [havailable] at hrun
          cases hrun
      | ok names =>
          rw [havailable] at hrun
          cases hrun
          rfl
  | some names =>
      refine yields_filterM (fun name => ?_) _
      refine (Yields.liftMisuse _).bind fun out hout => ?_
      rw [hout]
      cases out with
      | true => exact Yields.bind_any fun _ => .pure rfl
      | false => exact .pure rfl

theorem retains_chosenModels (c : Console) (p : Pipeline) (models : Value) :
    Retains Workshop.stock (chosenModels c p models) := by
  unfold chosenModels
  cases models.nonempty? with
  | none => exact .liftFault _
  | some names =>
      refine retains_filterM (fun name => (Retains.liftMisuse _).bind fun out => ?_) _
      exact .ite ((retains_print c _).bind fun _ => .pure _) (.pure _)

/-! ### What a task does -/

/-- What a task does about the transport. -/
inductive Provides (p : Pipeline) (tree : FileTree) (t : Task) (chosen : List String) :
    Summary × List Turn → Prop
  /-- No service is generated. -/
  | unwanted (h : chosen = [] ∨ "service" ∉ t.components) : Provides p tree t chosen ([], [])
  /-- There is something at its path, and the task is about a single model. -/
  | there (path : Path) (hpath : Dart.Artifact.transportPath p.settings.output = .ok path)
    (hsingle : t.isMany = false) (h : tree.pathExists (Path.ofString path.text) = .ok true) :
    Provides p tree t chosen ([], [])
  /-- It takes a turn. -/
  | made (path : Path) (turn : Turn)
    (hpath : Dart.Artifact.transportPath p.settings.output = .ok path)
    (hfile : turn.file = transportFile path)
    (h : t.isMany = true ∨ tree.pathExists (Path.ofString path.text) = .ok false) :
    Provides p tree t chosen ([turn.result], [turn])

/-- What a task does for one of its models. -/
def Serves (p : Pipeline) (t : Task) (name : String) (row : Summary × List Turn) : Prop :=
  if t.isMany then AttendsAmong p t.components name row.1 row.2
  else Attends p t.components name t.withRoutes row.1 row.2

/-- What a task does: about the transport, and for one model after another. -/
structure Carries (p : Pipeline) (tree : FileTree) (t : Task) (chosen : List String)
    (base : Summary × List Turn) (rows : List (Summary × List Turn)) : Prop where
  targets : t.targets p = .ok chosen
  transport : Provides p tree t chosen base
  models : List.Forall₂ (Serves p t) chosen rows

/-- The results of what a task does. -/
def resultsOf (base : Summary × List Turn) (rows : List (Summary × List Turn)) : Summary :=
  base.1 ++ (rows.map Prod.fst).flatten

/-- The turns of what a task does. -/
def turnsOf (base : Summary × List Turn) (rows : List (Summary × List Turn)) : List Turn :=
  base.2 ++ (rows.map Prod.snd).flatten

/-- The transport, if it is wanted, and then a single model. -/
theorem transportIf_cases {wanted : Bool} {s : Summary} (hsingle : t.isMany = false)
    (hwanted : wanted = true ↔ "service" ∈ t.components) (chosen : List String)
    (hrun : (transportIf p wanted).run.run w = (.ok s, w')) :
    ∃ ts, Passes p w ts w' ∧ Provides p w.session.tree t chosen (s, ts) := by
  unfold transportIf at hrun
  cases wanted with
  | false =>
      cases hrun
      exact ⟨[], .done rfl, .unwanted (.inr fun h => by simpa using hwanted.2 h)⟩
  | true =>
      obtain ⟨r, w₁, hensure, hrest⟩ := run_bind_eq_ok hrun
      obtain ⟨hs, rfl⟩ := Prod.mk.inj hrest
      obtain rfl := Except.ok.inj hs
      obtain ⟨path, there, ts, hpath, hthere, hpasses, hcases⟩ :=
        Pipeline.ensureTransport_cases hensure
      refine ⟨ts, hpasses, ?_⟩
      cases there with
      | true =>
          obtain ⟨rfl, rfl⟩ := hcases
          exact .there path hpath hsingle hthere
      | false =>
          obtain ⟨turn, hfile, rfl, rfl⟩ := hcases
          exact .made path turn hpath hfile (.inr hthere)

/-- A single model, after the transport. -/
theorem single_cases (wanted : Bool) {components : List String} {name : String} {withRoutes : Bool}
    (hsingle : t.isMany = false) (htargets : t.targets p = .ok [name])
    (hcomponents : t.components = components) (hroutes : t.withRoutes = withRoutes)
    (hwanted : wanted = true ↔ "service" ∈ t.components)
    (hrun : (do
      let transport ← transportIf p wanted
      return transport ++ (← p.generateFeature (.text name) (.ofTexts components) withRoutes) :
        Work Summary).run.run w = (.ok s, w')) :
    ∃ chosen base rows, Carries p w.session.tree t chosen base rows ∧
      Passes p w (turnsOf base rows) w' ∧ s = resultsOf base rows := by
  obtain ⟨s₀, w₁, hbase, hrest⟩ := run_bind_eq_ok hrun
  obtain ⟨s₁, w₂, hmodel, hsum⟩ := run_bind_eq_ok hrest
  obtain ⟨hs, rfl⟩ := Prod.mk.inj hsum
  obtain rfl := Except.ok.inj hs
  obtain ⟨ts₀, hpasses₀, hprovides⟩ := transportIf_cases hsingle hwanted [name] hbase
  obtain ⟨ts, hpasses, hattends⟩ :=
    Pipeline.takes_generateFeature p components name withRoutes w₁ s₁ w₂ hmodel
  refine ⟨[name], (s₀, ts₀), [(s₁, ts)], ⟨htargets, hprovides, .cons ?_ .nil⟩, ?_, ?_⟩
  · unfold Serves
    rw [hsingle, hcomponents, hroutes]
    exact hattends
  · simpa [turnsOf] using hpasses₀.append hpasses
  · simp [resultsOf]

/-- Many models, after the plan has been shown. -/
theorem takes_gatherMany (c : Console) (p : Pipeline) (chosen groups : List String) :
    Takes p (gatherMany c p chosen groups) fun s ts =>
      ∃ (base : Summary × List Turn) (rows : List (Summary × List Turn)),
        s = resultsOf base rows ∧ ts = turnsOf base rows ∧
        (if "service" ∈ groups then
          ∃ path turn, Dart.Artifact.transportPath p.settings.output = .ok path ∧
            turn.file = transportFile path ∧ base.1 = [turn.result] ∧ base.2 = [turn]
        else base.1 = [] ∧ base.2 = []) ∧
        List.Forall₂ (fun name row => AttendsAmong p groups name row.1 row.2) chosen rows := by
  unfold gatherMany
  refine Takes.bind_any (.liftMisuse _) fun files => ?_
  refine Takes.bind_any (retains_print c _) fun _ => ?_
  exact Pipeline.takes_generateAll p chosen groups

/-- **What a task does before its results are shown.** -/
theorem gather_cases (hgenerates : t.generates = true)
    (hrun : (t.gather c p).run.run w = (.ok s, w')) :
    ∃ chosen base rows, Carries p w.session.tree t chosen base rows ∧
      Passes p w (turnsOf base rows) w' ∧ s = resultsOf base rows := by
  unfold Task.gather at hrun
  obtain ⟨u, w₀, hprint, hrun⟩ := run_bind_eq_ok hrun
  have hstock := retains_printAll c t.announcement w
  rw [hprint] at hstock
  have htree : w₀.session.tree = w.session.tree := (Pipeline.Stock.mk.inj hstock).1
  suffices h : ∃ chosen base rows, Carries p w₀.session.tree t chosen base rows ∧
      Passes p w₀ (turnsOf base rows) w' ∧ s = resultsOf base rows by
    obtain ⟨chosen, base, rows, hcarries, hpasses, hs⟩ := h
    exact ⟨chosen, base, rows, htree ▸ hcarries, hpasses.of_stock hstock, hs⟩
  cases t with
  | model name =>
      have hmodel : (p.generateFeature (.text name) (.ofTexts [Group.model.name]) false >>=
          pure).run.run w₀ = (.ok s, w') := by
        rw [bind_pure]
        exact hrun
      refine single_cases false rfl rfl rfl rfl ?_ hmodel
      simp [Task.components, Group.name]
  | service name withRoutes =>
      refine single_cases true rfl rfl rfl rfl ?_ hrun
      simp [Task.components, Group.name]
  | feature name skipped =>
      exact single_cases _ rfl rfl rfl rfl List.contains_iff_mem hrun
  | everything models assent skipped =>
      obtain ⟨chosen, w₁, hchosen, hrest⟩ := run_bind_eq_ok hrun
      have hselected := yields_chosenModels c p models w₀ chosen w₁ hchosen
      have hstock₁ := retains_chosenModels c p models w₀
      rw [hchosen] at hstock₁
      cases chosen with
      | nil =>
          cases hrest
          exact ⟨[], ([], []), [], ⟨hselected, .unwanted (.inl rfl), .nil⟩, .done hstock₁, rfl⟩
      | cons name rest =>
          obtain ⟨ts, hpasses, base, rows, rfl, rfl, hbase, hrows⟩ :=
            takes_gatherMany c p (name :: rest) _ w₁ s w' hrest
          refine ⟨name :: rest, base, rows, ⟨hselected, ?_, hrows⟩, hpasses.of_stock hstock₁, rfl⟩
          obtain ⟨s₀, ts₀⟩ := base
          split at hbase
          · obtain ⟨path, turn, hpath, hfile, hs, hts⟩ := hbase
            rw [show s₀ = [turn.result] from hs, show ts₀ = [turn] from hts]
            exact .made path turn hpath hfile (.inl rfl)
          · obtain ⟨hs, hts⟩ := hbase
            rw [show s₀ = [] from hs, show ts₀ = [] from hts]
            exact .unwanted (.inr ‹_›)
  | list => cases hgenerates

theorem groups_ne_nil {code : Nat} (hrun : (t.perform c p).run.run w = (.ok code, w')) :
    t.groups ≠ [] := by
  intro hgroups
  unfold Task.perform at hrun
  rw [hgroups] at hrun
  cases hrun

/-- **What carrying out a task does.** -/
theorem perform_cases {code : Nat} (hgenerates : t.generates = true)
    (hrun : (t.perform c p).run.run w = (.ok code, w')) :
    ∃ chosen base rows, Carries p w.session.tree t chosen base rows ∧
      Passes p w (turnsOf base rows) w' ∧ code = (resultsOf base rows).exitCode := by
  obtain ⟨s, w₁, hgather, hstock, rfl⟩ :=
    (concludes_perform c p hgenerates (groups_ne_nil hrun)).run_ok hrun
  obtain ⟨chosen, base, rows, hcarries, hpasses, rfl⟩ := gather_cases hgenerates hgather
  exact ⟨chosen, base, rows, hcarries, hpasses.of_stock_after hstock, rfl⟩

/-! ### Successes -/

section Success

variable {chosen : List String} {base : Summary × List Turn} {rows : List (Summary × List Turn)}

/-- What is planned for one of the models of a task: nothing, if it is left out. -/
def PlansFor (p : Pipeline) (t : Task) (name : String) (plan : List Planned) : Prop :=
  t.isMany = true ∧ isExcluded p.settings (.text name) = .ok true ∧ plan = [] ∨
    ∃ u m, ((p.analyze (.text name) t.withRoutes).run.run u).1 = .ok m ∧
      planFiles p.settings.output m t.components = .ok plan

theorem failed_append (s s' : Summary) : Summary.failed (s ++ s') = s.failed ++ s'.failed :=
  List.filter_append ..

theorem failed_eq_nil_iff {s : Summary} : s.failed = [] ↔ ∀ r ∈ s, r.status ≠ .failed := by
  simp [Summary.failed, Summary.withStatus, List.filter_eq_nil_iff]

/-- What is done for a target takes no more turns than it has results. -/
theorem Attends.eq_of_failed {components : List String} {target : String} {withRoutes : Bool}
    {s : Summary} {ts : List Turn} (h : Attends p components target withRoutes s ts)
    (hs : s.failed = []) : s = ts.map Turn.result ∧ ∃ u m,
      ((p.analyze (.text target) withRoutes).run.run u).1 = .ok m ∧
      planFiles p.settings.output m components = .ok (ts.map Turn.file) := by
  cases h with
  | unanalyzed u fault hanalyze hfault => cases hs
  | files u m ts hanalyze hplan => exact ⟨rfl, u, m, hanalyze, hplan⟩

theorem Serves.eq_of_failed {name : String} {row : Summary × List Turn} (h : Serves p t name row)
    (hs : row.1.failed = []) :
    row.1 = row.2.map Turn.result ∧ PlansFor p t name (row.2.map Turn.file) := by
  unfold Serves at h
  obtain ⟨s, ts⟩ := row
  split at h
  · cases h with
    | leftOut hout => exact ⟨rfl, .inl ⟨‹_›, hout, rfl⟩⟩
    | attended hkept h =>
        have hroutes : t.withRoutes = false := by cases t <;> first | rfl | contradiction
        obtain ⟨hresults, hplan⟩ := Attends.eq_of_failed h hs
        exact ⟨hresults, .inr (hroutes ▸ hplan)⟩
  · obtain ⟨hresults, hplan⟩ := Attends.eq_of_failed h hs
    exact ⟨hresults, .inr hplan⟩

/-- If nothing failed, each result is that of a turn. -/
theorem Carries.of_failed {tree : FileTree} (h : Carries p tree t chosen base rows)
    (hs : (resultsOf base rows).failed = []) :
    resultsOf base rows = (turnsOf base rows).map Turn.result ∧
      List.Forall₂ (PlansFor p t) chosen (rows.map fun row => row.2.map Turn.file) := by
  have hrows : (rows.map Prod.fst).flatten = ((rows.map Prod.snd).flatten).map Turn.result ∧
      List.Forall₂ (PlansFor p t) chosen (rows.map fun row => row.2.map Turn.file) := by
    have hnone : Summary.failed (rows.map Prod.fst).flatten = [] :=
      (List.append_eq_nil_iff.1 ((failed_append _ _).symm.trans hs)).2
    clear hs
    have hmodels := h.models
    clear h
    induction hmodels with
    | nil => exact ⟨rfl, .nil⟩
    | @cons name row chosen rows hrow _ ih =>
        rw [List.map_cons, List.flatten_cons, failed_append, List.append_eq_nil_iff] at hnone
        obtain ⟨hresults, hplan⟩ := hrow.eq_of_failed hnone.1
        obtain ⟨hrest, hplans⟩ := ih hnone.2
        refine ⟨?_, .cons hplan hplans⟩
        rw [List.map_cons, List.flatten_cons, hrest, hresults]
        simp
  have hbase : base.1 = base.2.map Turn.result := by
    cases h.transport <;> rfl
  refine ⟨?_, hrows.2⟩
  unfold resultsOf turnsOf
  rw [List.map_append, ← hbase, hrows.1]

/-- If the results are a success, every turn has succeeded. -/
theorem Carries.status_ne_failed {tree : FileTree} (h : Carries p tree t chosen base rows)
    (hs : (resultsOf base rows).failed = []) :
    ∀ turn ∈ turnsOf base rows, turn.result.status ≠ .failed := by
  intro turn hturn
  refine failed_eq_nil_iff.1 hs _ ?_
  rw [(h.of_failed hs).1]
  exact List.mem_map_of_mem hturn

end Success

end DartScaffold.Command
