/-
**What the exit code says.**

A task that ends with the code zero has left every file that it planned where it was planned, be it
written now or skipped because something was there; so has it left the transport, if services are
among its components and a model is chosen.  If no model is chosen, nothing is generated and the
code is zero, too.  And a file that fails, or a model that cannot be analyzed, does not keep a task
from going on: with settings that can be worked with, a task that has something to generate returns
the code one exactly if something failed, and it has executed every planned file of every model that
it could analyze.

Main definitions:

* `Command.IsKept` — a model that a task does not leave out.

Main results:

* `Pipeline.planFiles_of_withRoutes`, `Pipeline.analyze_withRoutes` — routes do not matter for
  paths;
* `Command.exists_run_gather` — when a task comes to results;
* `Command.Carries.files_there`, `Command.Carries.transport_there`, `Command.Carries.attends` — what
  a task leaves behind where nothing failed, and what it has done for each model;
* `Command.perform_exitCode` — **what the code says about the files**;
* `Command.perform_nothing` — tasks that generate nothing, and tasks that return no code.
-/

import Mathlib
import DartScaffold.Proofs.Command.Performing
import DartScaffold.Proofs.Naming.Joined

set_option relaxedAutoImplicit false
set_option autoImplicit false

namespace DartScaffold

namespace Pipeline

variable {p : Pipeline}

/-! ### Routes do not matter for paths -/

/-- With other routes a file is planned at the same place. -/
theorem planFile_withRoutes (o : OutputSettings) (m : Model) (routes : List Route)
    (a : Dart.Artifact) : planFile o (m.withRoutes routes) a =
      (planFile o m a).map fun f => { f with source := .artifact a (m.withRoutes routes) } := by
  have hpath : a.path o (m.withRoutes routes) = a.path o m := by cases a <;> rfl
  unfold planFile
  rw [hpath]
  cases a.path o m <;> rfl

/-- So the files of a model are planned at the same places, whatever its routes are. -/
theorem planFiles_of_withRoutes {o : OutputSettings} {m : Model} {routes : List Route}
    {components : List String} {plan : List Planned}
    (h : planFiles o (m.withRoutes routes) components = .ok plan) :
    ∃ plan', planFiles o m components = .ok plan' ∧
      plan'.map Planned.path = plan.map Planned.path := by
  unfold planFiles at h ⊢
  generalize (Group.chosen components).flatMap Group.artifacts = artifacts at h ⊢
  have hfiles := forall₂_of_mapM h
  clear h
  induction hfiles with
  | nil => exact ⟨[], rfl, rfl⟩
  | @cons a f as plan hf _ ih =>
      obtain ⟨plan', hplan', hpaths⟩ := ih
      rw [planFile_withRoutes] at hf
      cases hfile : planFile o m a with
      | error e =>
          rw [hfile] at hf
          cases hf
      | ok f' =>
          rw [hfile] at hf
          obtain rfl := Except.ok.inj hf
          refine ⟨f' :: plan', ?_, by simp [hpaths]⟩
          rw [List.mapM_cons, hfile, hplan']
          rfl

/-- An analysis with routes is one without, to which routes are added. -/
theorem analyze_withRoutes {model : Datum} {withRoutes : Bool} {u : Workshop} {m : Model}
    (h : ((p.analyze model withRoutes).run.run u).1 = .ok m) :
    ∃ m' routes, (∀ v, ((p.analyze model false).run.run v).1 = .ok m') ∧
      (m = m' ∨ m = m'.withRoutes routes) := by
  cases withRoutes with
  | false => exact ⟨m, [], fun v => (analyze_eq p model v u).trans h, .inl rfl⟩
  | true =>
      have hrun := run_of_fst h
      unfold analyze at hrun
      obtain ⟨view, u₁, hview, hrest⟩ := run_bind_eq_ok hrun
      obtain ⟨m', u₂, hm', hroutes⟩ := run_bind_eq_ok hrest
      obtain ⟨a, u₃, -, hm⟩ := run_bind_eq_ok hroutes
      refine ⟨m', a.routesForModel m'.className, fun v => ?_, ?_⟩
      · rw [analyze_eq p model v u]
        unfold analyze
        rw [run_bind, hview]
        dsimp only
        rw [run_bind, hm']
        rfl
      · exact .inr (Except.ok.inj (Prod.mk.inj hm).1).symm

end Pipeline

namespace Command

open Pipeline (Work Workshop Group Summary FileResult Turn Passes Attends AttendsAmong Planned
  Ending EndsIn planFiles isExcluded)
open Text.Markup (ClosesNone)

variable {c : Console} {p : Pipeline} {w w' : Workshop} {t : Task} {chosen : List String}
  {base : Summary × List Turn} {rows : List (Summary × List Turn)}

/-- A model that is asked for is generated unless a task is about many and the model is left out. -/
def IsKept (p : Pipeline) (t : Task) (name : String) : Prop :=
  t.isMany = true → isExcluded p.settings (.text name) = .ok false

/-! ### Success -/

/-- What is planned for a model that is not left out, by its paths. -/
theorem PlansFor.exists_plan {name : String} {plan : List Planned} (h : PlansFor p t name plan)
    (hkept : IsKept p t name) : ∃ m plan',
      (∀ v, ((p.analyze (.text name) false).run.run v).1 = .ok m) ∧
      planFiles p.settings.output m t.components = .ok plan' ∧
      plan'.map Planned.path = plan.map Planned.path := by
  rcases h with ⟨hmany, hout, -⟩ | ⟨u, m, hm, hplan⟩
  · rw [hkept hmany] at hout
    cases hout
  · obtain ⟨m', routes, hm', rfl | rfl⟩ := Pipeline.analyze_withRoutes hm
    · exact ⟨m, plan, hm', hplan, rfl⟩
    · obtain ⟨plan', hplan', hpaths⟩ := Pipeline.planFiles_of_withRoutes hplan
      exact ⟨m', plan', hm', hplan', hpaths⟩

/-! ### Returning -/

theorem endsIn_filterM {α σ : Type} {f : α → ExceptT Fault (StateM σ) Bool} {as : List α}
    (h : ∀ a ∈ as, EndsIn (f a) .returns) : EndsIn (as.filterM f) .returns := by
  have hloop : ∀ acc, EndsIn (List.filterAuxM f as acc) .returns := by
    induction as with
    | nil => exact fun acc => .pure _
    | cons a as ih =>
        have hrest := ih fun b hb => h b (List.mem_cons_of_mem _ hb)
        exact fun acc => (h a (List.mem_cons_self ..)).bind fun b => hrest _
  exact (hloop []).bind fun bs => .pure _

theorem endsIn_chosenModels (hshows : c.ShowsInOrder) (h : p.settings.Usable) {models : Value}
    (hwanted : ∀ name ∈ (models.nonempty?.map wantedNames).getD [], ClosesNone name)
    (hselected : selectedModels p models = .ok chosen) :
    EndsIn (chosenModels c p models) .returns := by
  unfold selectedModels at hselected
  unfold chosenModels
  cases hnames : models.nonempty? with
  | none =>
      rw [hnames] at hselected
      have havailable : p.availableModels = .ok chosen := hselected
      dsimp only
      rw [havailable]
      exact fun _ => rfl
  | some names =>
      rw [hnames] at hwanted
      refine endsIn_filterM fun name hname => ?_
      refine EndsIn.bind_misuse (Pipeline.isExcluded_eq h name) ?_
      cases p.isLeftOut name with
      | true =>
          have hshown := hshows _ (isInOrder_excludedLine (hwanted name hname))
          exact (endsIn_print hshown).bind fun _ => .pure _
      | false => exact .pure _

/-- The transport can be seen to if its path can be looked up. -/
theorem exists_run_transportIf (h : p.settings.Usable) {wanted : Bool}
    (hlookup : wanted = true → ∀ path, Dart.Artifact.transportPath p.settings.output = .ok path →
      ∃ there, w.session.tree.pathExists (Path.ofString path.text) = .ok there) :
    ∃ s w', (transportIf p wanted).run.run w = (.ok s, w') := by
  unfold transportIf
  cases wanted with
  | false => exact ⟨[], w, rfl⟩
  | true =>
      obtain ⟨r, w', hrun⟩ := Pipeline.exists_run_ensureTransport h (hlookup rfl)
      refine ⟨r.toList, w', ?_⟩
      show (p.ensureTransport >>= _).run.run w = _
      rw [run_bind, hrun]
      rfl

theorem exists_run_single (h : p.settings.Usable) (wanted : Bool) {components : List String}
    {name : String} {withRoutes : Bool}
    (hlookup : wanted = true → ∀ path, Dart.Artifact.transportPath p.settings.output = .ok path →
      ∃ there, w.session.tree.pathExists (Path.ofString path.text) = .ok there)
    (hanalyze : ∀ u, Ending.of ((p.analyze (.text name) withRoutes).run.run u).1 ≠ .escapes) :
    ∃ s w', (do
      let transport ← transportIf p wanted
      return transport ++ (← p.generateFeature (.text name) (.ofTexts components) withRoutes) :
        Work Summary).run.run w = (.ok s, w') := by
  obtain ⟨s, w₁, htransport⟩ := exists_run_transportIf h hlookup
  rw [run_bind, htransport]
  have hrest : EndsIn (do
      return s ++ (← p.generateFeature (.text name) (.ofTexts components) withRoutes)) .returns :=
    (Pipeline.endsIn_generateFeature_of_ne h hanalyze components).bind fun _ => .pure _
  exact (EndsIn.exists_run_iff w₁).2 (hrest w₁)

/-- The names of groups close nothing. -/
theorem closesNone_join_groups (groups : List Group) :
    ClosesNone (Text.join ", " (groups.map Group.name)) := by
  refine .of_not_mem fun hmem => ?_
  rw [Text.toList_join] at hmem
  rcases Naming.mem_intercalate hmem with hsep | ⟨w, hw, hmem⟩
  · exact absurd hsep (by decide)
  · obtain ⟨name, hname, rfl⟩ := List.mem_map.1 hw
    obtain ⟨g, -, rfl⟩ := List.mem_map.1 hname
    cases g <;> exact absurd hmem (by decide)

/-- Many models are generated if what is planned can be shown and none of their analyses is broken
off. -/
theorem endsIn_gatherMany (hshows : c.ShowsInOrder) (h : p.settings.Usable) (groups : List Group)
    (hmodels : ∀ name ∈ chosen, ClosesNone name)
    (hdirectory : ClosesNone p.settings.output.basePath.display)
    (hanalyze : ∀ name ∈ chosen, isExcluded p.settings (.text name) = .ok false →
      ∀ u, Ending.of ((p.analyze (.text name) false).run.run u).1 ≠ .escapes) :
    EndsIn (gatherMany c p chosen (groups.map Group.name)) .returns := by
  have hgroups : ∀ c ∈ groups.map Group.name, c ∈ Group.names := by
    intro c hc
    obtain ⟨g, -, rfl⟩ := List.mem_map.1 hc
    cases g <;> decide
  unfold gatherMany
  refine EndsIn.bind_misuse (Pipeline.estimate_texts hgroups chosen.length) ?_
  have hpanel : ∀ n : Nat, (planPanel chosen (groups.map Group.name) (Datum.int n).display
      p.settings.output.basePath.display).IsInOrder := fun n =>
    isInOrder_planPanel hmodels (closesNone_join_groups groups) (ClosesNone.toString_nat n)
      hdirectory
  refine (endsIn_print (hshows _ (hpanel _))).bind fun _ => ?_
  exact Pipeline.endsIn_targets h hanalyze

/-- A task comes to results, with settings that can be worked with, if the console shows what it
speaks of, and no analysis is broken off. -/
theorem exists_run_gather (hshows : c.ShowsInOrder) (h : p.settings.Usable)
    (htargets : t.targets p = .ok chosen)
    (hmentioned : ∀ text ∈ t.mentioned p chosen, ClosesNone text)
    (hanalyze : ∀ name ∈ chosen, IsKept p t name →
      ∀ u, Ending.of ((p.analyze (.text name) t.withRoutes).run.run u).1 ≠ .escapes)
    (hlookup : t.isMany = false → "service" ∈ t.components →
      ∀ path, Dart.Artifact.transportPath p.settings.output = .ok path →
        ∃ there, w.session.tree.pathExists (Path.ofString path.text) = .ok there) :
    ∃ s w', (t.gather c p).run.run w = (.ok s, w') := by
  have hannounced : EndsIn (printAll c t.announcement) .returns :=
    endsIn_printAll fun what hwhat => hshows what (isInOrder_announcement hmentioned what hwhat)
  obtain ⟨u, w₀, hprint⟩ := (EndsIn.exists_run_iff w).2 (hannounced w)
  have hstock := retains_printAll c t.announcement w
  rw [hprint] at hstock
  have htree : w₀.session.tree = w.session.tree := (Pipeline.Stock.mk.inj hstock).1
  unfold Task.gather
  rw [run_bind, hprint]
  rw [← htree] at hlookup
  have hkept : t.isMany = false → ∀ name, IsKept p t name := fun hsingle name hmany => by
    rw [hsingle] at hmany
    cases hmany
  cases t with
  | model name =>
      obtain rfl := Except.ok.inj htargets
      exact (EndsIn.exists_run_iff w₀).2 (Pipeline.endsIn_generateFeature_of_ne h
        (hanalyze name (List.mem_singleton.2 rfl) (hkept rfl name)) _ w₀)
  | service name withRoutes =>
      obtain rfl := Except.ok.inj htargets
      exact exists_run_single h true (fun _ => hlookup rfl (List.mem_singleton.2 rfl))
        (hanalyze name (List.mem_singleton.2 rfl) (hkept rfl name))
  | feature name skipped =>
      obtain rfl := Except.ok.inj htargets
      exact exists_run_single h _ (fun hservice => hlookup rfl (List.contains_iff_mem.1 hservice))
        (hanalyze name (List.mem_singleton.2 rfl) (hkept rfl name))
  | everything models assent skipped =>
      obtain ⟨hdirectory, hnames⟩ := List.forall_mem_cons.1 hmentioned
      obtain ⟨hwanted, hchosen⟩ := List.forall_mem_append.1 hnames
      obtain ⟨chosen', w₁, hrun⟩ := (EndsIn.exists_run_iff w₀).2
        (endsIn_chosenModels hshows h hwanted htargets w₀)
      have hselected := yields_chosenModels c p models w₀ chosen' w₁ hrun
      obtain rfl : chosen' = chosen := Except.ok.inj (hselected.symm.trans htargets)
      dsimp only
      rw [run_bind, hrun]
      cases chosen' with
      | nil => exact ⟨[], _, rfl⟩
      | cons name rest =>
          have hmany := endsIn_gatherMany hshows h (Task.everything models assent skipped).groups
            hchosen hdirectory fun name hname hout u => hanalyze name hname (fun _ => hout) u
          exact (EndsIn.exists_run_iff w₁).2 (hmany w₁)
  | list => exact ⟨[], w₀, rfl⟩

/-! ### What a code says -/

/-- A model that is not left out is attended to. -/
theorem Serves.attends {name : String} {row : Summary × List Turn} (h : Serves p t name row)
    (hkept : IsKept p t name) :
    Attends p t.components name t.withRoutes row.1 row.2 := by
  unfold Serves at h
  split at h
  · have hroutes : t.withRoutes = false := by cases t <;> first | rfl | contradiction
    rw [hroutes]
    generalize row.1 = s, row.2 = ts at h
    cases h with
    | leftOut hout =>
        rw [hkept ‹_›] at hout
        cases hout
    | attended _ h => exact h
  · exact h

/-- Each turn has its result among those of the task. -/
theorem Carries.result_mem {tree : FileTree} (h : Carries p tree t chosen base rows) {turn : Turn}
    (hturn : turn ∈ turnsOf base rows) : turn.result ∈ resultsOf base rows := by
  have hbase : base.1 = base.2.map Turn.result := by
    cases h.transport <;> rfl
  have hattends : ∀ {components name withRoutes} {s : Summary} {ts : List Turn},
      Attends p components name withRoutes s ts → turn ∈ ts → turn.result ∈ s := by
    intro components name withRoutes s ts hattends hmem
    cases hattends with
    | unanalyzed => cases hmem
    | files => exact List.mem_map_of_mem hmem
  unfold turnsOf at hturn
  unfold resultsOf
  rcases List.mem_append.1 hturn with hturn | hturn
  · rw [hbase]
    exact List.mem_append_left _ (List.mem_map_of_mem hturn)
  · obtain ⟨ts, hts, hmem⟩ := List.mem_flatten.1 hturn
    obtain ⟨row, hrow, rfl⟩ := List.mem_map.1 hts
    refine List.mem_append_right _ (List.mem_flatten.2 ⟨row.1, List.mem_map_of_mem hrow, ?_⟩)
    obtain ⟨name, -, hserves⟩ := exists_of_forall₂ h.models.flip hrow
    split at hserves
    · generalize row.1 = s, row.2 = ts at hserves hmem
      cases hserves with
      | leftOut => cases hmem
      | attended _ h => exact hattends h hmem
    · exact hattends hserves hmem

/-- If nothing failed, there is something at the path of every file that is planned for a model that
is not left out. -/
theorem Carries.files_there {tree later : FileTree} (h : Carries p tree t chosen base rows)
    (hs : (resultsOf base rows).failed = [])
    (hthere : ∀ turn ∈ turnsOf base rows, later.pathExists turn.path = .ok true) {name : String}
    (hname : name ∈ chosen) (hkept : IsKept p t name) : ∃ m plan,
      (∀ u, ((p.analyze (.text name) false).run.run u).1 = .ok m) ∧
      planFiles p.settings.output m t.components = .ok plan ∧
      ∀ f ∈ plan, later.pathExists (Path.ofString f.path) = .ok true := by
  obtain ⟨plan, hplan, hplans⟩ := exists_of_forall₂ (h.of_failed hs).2 hname
  obtain ⟨m, plan', hm, hplan', hpaths⟩ := hplans.exists_plan hkept
  refine ⟨m, plan', hm, hplan', fun f hf => ?_⟩
  obtain ⟨row, hrow, rfl⟩ := List.mem_map.1 hplan
  have hmem : f.path ∈ plan'.map Planned.path := List.mem_map_of_mem hf
  rw [hpaths, List.map_map] at hmem
  obtain ⟨turn, hturn, hpath⟩ := List.mem_map.1 hmem
  rw [← hpath]
  refine hthere turn (List.mem_append_right _ ?_)
  exact List.mem_flatten.2 ⟨row.2, List.mem_map_of_mem hrow, hturn⟩

/-- There is something at the path of the transport, too, if a model is chosen. -/
theorem Carries.transport_there {tree later : FileTree} (h : Carries p tree t chosen base rows)
    (hgrows : tree.Grows later)
    (hthere : ∀ turn ∈ turnsOf base rows, later.pathExists turn.path = .ok true)
    (hne : chosen ≠ []) (hservice : "service" ∈ t.components) :
    ∃ path, Dart.Artifact.transportPath p.settings.output = .ok path ∧
      later.pathExists (Path.ofString path.text) = .ok true := by
  have htransport := h.transport
  obtain ⟨s, ts⟩ := base
  cases htransport with
  | unwanted hnot => exact absurd hservice (hnot.resolve_left hne)
  | there path hpath hsingle hexists => exact ⟨path, hpath, hgrows.pathExists hexists⟩
  | made path turn hpath hfile h =>
      refine ⟨path, hpath, ?_⟩
      have hturn := hthere turn (List.mem_append_left _ (List.mem_singleton.2 rfl))
      unfold Turn.path at hturn
      rw [hfile] at hturn
      exact hturn

/-- A model that is not left out has the result that it cannot be analyzed, or each of its files had
its turn. -/
theorem Carries.attends {tree : FileTree} (h : Carries p tree t chosen base rows) {name : String}
    (hname : name ∈ chosen) (hkept : IsKept p t name) :
    (∃ u fault, ((p.analyze (.text name) t.withRoutes).run.run u).1 = .error fault ∧
      ⟨name, .failed, "analysis", name, fault.message⟩ ∈ resultsOf base rows) ∨
    ∃ u m plan, ((p.analyze (.text name) t.withRoutes).run.run u).1 = .ok m ∧
      planFiles p.settings.output m t.components = .ok plan ∧
      ∀ f ∈ plan, ∃ turn ∈ turnsOf base rows, turn.file = f := by
  obtain ⟨row, hrow, hserves⟩ := exists_of_forall₂ h.models hname
  have hattends := hserves.attends hkept
  have hresults : ∀ r ∈ row.1, r ∈ resultsOf base rows := fun r hr =>
    List.mem_append_right _ (List.mem_flatten.2 ⟨row.1, List.mem_map_of_mem hrow, hr⟩)
  have hturns : ∀ turn ∈ row.2, turn ∈ turnsOf base rows := fun turn hturn =>
    List.mem_append_right _ (List.mem_flatten.2 ⟨row.2, List.mem_map_of_mem hrow, hturn⟩)
  obtain ⟨s, ts⟩ := row
  change Attends p t.components name t.withRoutes s ts at hattends
  cases hattends with
  | unanalyzed u fault hfault hrecorded =>
      exact .inl ⟨u, fault, hfault, hresults _ (List.mem_singleton.2 rfl)⟩
  | files u m ts hm hplan =>
      refine .inr ⟨u, m, _, hm, hplan, fun f hf => ?_⟩
      obtain ⟨turn, hturn, rfl⟩ := List.mem_map.1 hf
      exact ⟨turn, hturns turn hturn, rfl⟩

/-- **The exit code tells what has become of the files.**  After the code zero there is something at
the path of every file that is planned for a model that is chosen and not left out, and at that of
the transport, if a model is chosen and services are among the components.  With settings that can
be worked with, something to generate, analyses that end in a model or in a fault that is recorded,
for a single model a path of the transport that can be looked up, and on a console that shows what
is in order, nothing keeps a task from its files if what it speaks of beforehand closes nothing.  It
gathers results: every file that was executed has its result, and each model that is not left out
either has the result that it could not be analyzed, or all files that are planned for it were
executed.  If the results are legible, the code is theirs, and it is one exactly if something
failed. -/
theorem perform_exitCode (c : Console) (p : Pipeline) {t : Task} (hgenerates : t.generates = true) :
    (∀ w w', (t.perform c p).run.run w = (.ok 0, w') →
      ∃ chosen, t.targets p = .ok chosen ∧
        (∀ name ∈ chosen, IsKept p t name → ∃ m plan,
          (∀ u, ((p.analyze (.text name) false).run.run u).1 = .ok m) ∧
          planFiles p.settings.output m t.components = .ok plan ∧
          ∀ f ∈ plan, w'.session.tree.pathExists (Path.ofString f.path) = .ok true) ∧
        (chosen ≠ [] → "service" ∈ t.components →
          ∃ path, Dart.Artifact.transportPath p.settings.output = .ok path ∧
            w'.session.tree.pathExists (Path.ofString path.text) = .ok true)) ∧
    (c.ShowsInOrder → p.settings.Usable → t.groups ≠ [] → ∀ chosen, t.targets p = .ok chosen →
      (∀ text ∈ t.mentioned p chosen, ClosesNone text) →
      (∀ name ∈ chosen, IsKept p t name →
        ∀ u, Ending.of ((p.analyze (.text name) t.withRoutes).run.run u).1 ≠ .escapes) →
      ∀ w, (t.isMany = false → "service" ∈ t.components →
          ∀ path, Dart.Artifact.transportPath p.settings.output = .ok path →
            ∃ there, w.session.tree.pathExists (Path.ofString path.text) = .ok there) →
        ∃ (s : Summary) (ts : List Turn), ((t.gather c p).run.run w).1 = .ok s ∧
          Passes p w ts ((t.perform c p).run.run w).2 ∧
          ((∀ r ∈ s, IsLegible r) → ((t.perform c p).run.run w).1 = .ok s.exitCode) ∧
          (s.exitCode = 1 ↔ ∃ r ∈ s, r.status = .failed) ∧
          (∀ turn ∈ ts, turn.result ∈ s) ∧
          ∀ name ∈ chosen, IsKept p t name →
            (∃ u fault, ((p.analyze (.text name) t.withRoutes).run.run u).1 = .error fault ∧
              ⟨name, .failed, "analysis", name, fault.message⟩ ∈ s) ∨
            ∃ u m plan, ((p.analyze (.text name) t.withRoutes).run.run u).1 = .ok m ∧
              planFiles p.settings.output m t.components = .ok plan ∧
              ∀ f ∈ plan, ∃ turn ∈ ts, turn.file = f) := by
  constructor
  · intro w w' hrun
    obtain ⟨chosen, base, rows, hcarries, hpasses, hcode⟩ := perform_cases hgenerates hrun
    have hs : (resultsOf base rows).failed = [] :=
      (Pipeline.Summary.exitCode_eq_zero_iff _).1 hcode.symm
    have hthere : ∀ turn ∈ turnsOf base rows,
        w'.session.tree.pathExists turn.path = .ok true := fun turn hturn =>
      hpasses.pathExists hturn (hcarries.status_ne_failed hs turn hturn)
    exact ⟨chosen, hcarries.targets, fun _ => hcarries.files_there hs hthere,
      hcarries.transport_there hpasses.grows hthere⟩
  · intro hshows husable hgroups chosen htargets hmentioned hanalyze w hlookup
    obtain ⟨s, w₁, hgather⟩ :=
      exists_run_gather hshows husable htargets hmentioned hanalyze hlookup
    obtain ⟨chosen', base, rows, hcarries, hpasses, rfl⟩ := gather_cases hgenerates hgather
    obtain rfl : chosen' = chosen := Except.ok.inj (hcarries.targets.symm.trans htargets)
    -- All files have been executed by now, whether or not the results can be shown.
    obtain ⟨hstock, hcode⟩ :=
      (concludes_perform c p hgenerates hgroups).exists_run hshows hgather
    refine ⟨resultsOf base rows, turnsOf base rows, by rw [hgather], hpasses.of_stock_after hstock,
      hcode, ?_, fun turn hturn => hcarries.result_mem hturn, fun _ => hcarries.attends⟩
    rw [Pipeline.Summary.exitCode_eq_one_iff, ne_eq, failed_eq_nil_iff]
    simp

/-- Two models of which one cannot be analyzed, and the other one alone. -/
theorem perform_exitCode_mixed :
    let m : Backend.Manifest := ⟨"manifest.json", .ofTables [],
      .object (Backend.asObjects [("A", []), ("C", [("casts", .text "none")])]), []⟩
    let p : Pipeline := ⟨m.backend, .standard, none⟩
    let w := Workshop.start (Session.start .empty [] Web.unreachable) false
    let both : Task := .everything (.word "C,A") true [.service, .widgets, .screens]
    (∃ w', ((Task.model "A").perform .strict p).run.run w = (.ok 0, w') ∧ ∃ m plan,
      (∀ u, ((p.analyze (.text "A") false).run.run u).1 = .ok m) ∧
        planFiles p.settings.output m ["model"] = .ok plan ∧
        ∀ f ∈ plan, w'.session.tree.pathExists (Path.ofString f.path) = .ok true) ∧
    ∃ ts w', (both.perform .strict p).run.run w = (.ok 1, w') ∧ Passes p w ts w' ∧
      ∃ m plan, (∀ u, ((p.analyze (.text "A") false).run.run u).1 = .ok m) ∧
        planFiles p.settings.output m ["model"] = .ok plan ∧
        ∀ f ∈ plan, ∃ turn ∈ ts, turn.file = f := by
  intro m p w both
  have hends : ∀ name, EndsIn (p.analyze (.text name) false)
      (Backend.targetEnding p.settings.analysis m.schema
        [("A", []), ("C", [("casts", .text "none")])] name) :=
    fun name => Pipeline.endsIn_analyze rfl rfl name
  have hA : EndsIn (p.analyze (.text "A") false) .returns := by
    have h : Backend.targetEnding p.settings.analysis m.schema
        [("A", []), ("C", [("casts", .text "none")])] "A" = .returns := by decide +kernel
    exact h ▸ hends "A"
  have hC : EndsIn (p.analyze (.text "C") false) .recorded := by
    have h : Backend.targetEnding p.settings.analysis m.schema
        [("A", []), ("C", [("casts", .text "none")])] "C" = .recorded := by decide +kernel
    exact h ▸ hends "C"
  constructor
  · have hrun := run_of_isOk (x := (Task.model "A").perform .strict p) (s := w) (a := 0)
      (by decide +kernel)
    obtain ⟨chosen, htargets, hmodels, -⟩ :=
      (perform_exitCode .strict p (t := .model "A") rfl).1 w _ hrun
    obtain rfl := Except.ok.inj htargets
    exact ⟨_, hrun, hmodels "A" (List.mem_singleton.2 rfl) fun hmany => by cases hmany⟩
  · have hanalyze : ∀ name ∈ ["C", "A"], IsKept p both name →
        ∀ u, Ending.of ((p.analyze (.text name) both.withRoutes).run.run u).1 ≠ .escapes := by
      intro name hname _ u
      simp only [List.mem_cons, List.not_mem_nil, or_false] at hname
      rcases hname with rfl | rfl
      · rw [show both.withRoutes = false from rfl, hC u]
        decide
      · rw [show both.withRoutes = false from rfl, hA u]
        decide
    obtain ⟨s, ts, hgather, hpasses, hresult, hcode, -, hmodels⟩ :=
      (perform_exitCode .strict p (t := both) rfl).2 Console.showsInOrder_strict
        Settings.usable_standard (by decide) ["C", "A"] (by rfl) (by decide +kernel) hanalyze w
        (by simp [both, Task.isMany])
    have hlegible : ∀ r ∈ s, IsLegible r := by
      have hall : (match ((both.gather .strict p).run.run w).1 with
          | .ok s => s.all fun r => decide (IsLegible r)
          | .error _ => false) = true := by decide +kernel
      rw [hgather] at hall
      exact fun r hr => of_decide_eq_true (List.all_eq_true.1 hall r hr)
    have hone : s.exitCode = 1 := by
      have hkept : IsKept p both "C" := fun _ => by rfl
      rcases hmodels "C" (by simp) hkept with ⟨u, fault, -, hmem⟩ | ⟨u, m, plan, hm, -⟩
      · exact hcode.2 ⟨_, hmem, rfl⟩
      · have hrecorded := hC u
        rw [show (both.withRoutes) = false from rfl] at hm
        rw [hm] at hrecorded
        cases hrecorded
    refine ⟨ts, _, run_of_fst (hone ▸ hresult hlegible), hpasses, ?_⟩
    have hkept : IsKept p both "A" := fun _ => by rfl
    rcases hmodels "A" (by simp) hkept with ⟨u, fault, hfault, -⟩ | ⟨u, m, plan, hm, hplan⟩
    · obtain ⟨m, hm⟩ := (Pipeline.Ending.of_eq_returns_iff _).1 (hA u)
      exact absurd (hm.symm.trans hfault) (by simp)
    · exact ⟨m, plan, fun v => (Pipeline.analyze_eq p _ v u).trans hm, hplan⟩

/-- A task about all models where there are none: it is a success, and nothing is at the path of the
transport.  And three tasks about a model that cannot be analyzed, which return no code: one of
which every component is left out, one with an output folder that is no text, which is noticed when
another model is planned, and one whose model has a name that closes what is not open. -/
theorem perform_nothing :
    let m : Backend.Manifest := ⟨"manifest.json", .ofTables [], .object [], []⟩
    let p : Pipeline := ⟨m.backend, .standard, none⟩
    let m' : Backend.Manifest := { m with models := .object (Backend.asObjects [("A", [])]) }
    let p' : Pipeline := ⟨m'.backend,
      { Settings.standard with
        output := { Settings.standard.output with modelsPath := .int 5 } }, none⟩
    let w := Workshop.start (Session.start .empty [] Web.unreachable) false
    let all : Task := .everything .unset true []
    let nothing : Task := .feature "Missing" Group.all
    let misplaced : Task := .everything (.word "Missing,A") true [.service, .widgets, .screens]
    let unshown : Task := .model "[/x]"
    (all.generates = true ∧ "service" ∈ all.components ∧
      ∃ w' path, (all.perform .strict p).run.run w = (.ok 0, w') ∧
        Dart.Artifact.transportPath p.settings.output = .ok path ∧
        w'.session.tree.pathExists (Path.ofString path.text) = .ok false) ∧
      ((∃ fault, ((p.analyze (.text "Missing") false).run.run w).1 = .error fault ∧
          Pipeline.isAnalysisFault fault = true) ∧
        nothing.generates = true ∧ nothing.targets p = .ok ["Missing"] ∧
        ∀ code w', (nothing.perform .strict p).run.run w ≠ (.ok code, w')) ∧
      ((∃ fault, ((p'.analyze (.text "Missing") false).run.run w).1 = .error fault ∧
          Pipeline.isAnalysisFault fault = true) ∧
        misplaced.generates = true ∧ misplaced.targets p' = .ok ["Missing", "A"] ∧
        ∀ code w', (misplaced.perform .strict p').run.run w ≠ (.ok code, w')) ∧
      (∃ fault, ((p.analyze (.text "[/x]") false).run.run w).1 = .error fault ∧
          Pipeline.isAnalysisFault fault = true) ∧
        unshown.generates = true ∧ unshown.targets p = .ok ["[/x]"] ∧
        Console.strict.ShowsInOrder ∧
        ∀ code w', (unshown.perform .strict p).run.run w ≠ (.ok code, w') := by
  intro m p m' p' w all nothing misplaced unshown
  refine ⟨⟨rfl, by decide, ((all.perform .strict p).run.run w).2, _, run_of_isOk ?_, rfl, ?_⟩,
    ⟨⟨_, rfl, rfl⟩, rfl, rfl, ?_⟩, ⟨⟨_, rfl, rfl⟩, rfl, by rfl, ?_⟩,
    ⟨_, rfl, rfl⟩, rfl, rfl, Console.showsInOrder_strict, ?_⟩
  · decide +kernel
  · decide +kernel
  · rintro code w' ⟨⟩
  · intro code w' hrun
    have hfault : ((misplaced.perform .strict p').run.run w).1.toBool = false := by decide +kernel
    rw [hrun] at hfault
    cases hfault
  · intro code w' hrun
    have hfault : ((unshown.perform .strict p).run.run w).1.toBool = false := by decide +kernel
    rw [hrun] at hfault
    cases hfault

end Command

end DartScaffold
