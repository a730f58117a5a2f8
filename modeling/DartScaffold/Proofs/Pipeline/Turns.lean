/-
**The executions of a run.**

A run reads, plans, analyzes and logs, and in between it executes planned files.  Only these
executions write anything and ask anything; on the way from one of them to the next the stock stays
as it is.  So a run is told by the list of its executions, which are called turns, and what holds of
each turn holds of the whole run: the files only grow, a file changes only in a turn that writes it,
and what a turn has written stays until a later turn writes it again.

Main definitions:

* `Pipeline.Turn`, `Pipeline.Turn.Taken` — the execution of a planned file;
* `Pipeline.Passes` — the turns that lead from one workshop to another;
* `Pipeline.Takes` — a computation that takes turns, whatever it begins with;
* `Pipeline.Attends` — what is done for a target.

Main results:

* `Pipeline.Passes.split` — what comes before a turn, and what comes after it;
* `Pipeline.Passes.grows`, `Pipeline.Passes.contentAt?_of_ne` — what a run leaves as it was;
* `Pipeline.Passes.contentAt?_of_last` — **what a turn has written stays**, unless it is written
  again;
* `Pipeline.takes_run`, `Pipeline.takes_generateFeature`, `Pipeline.takes_generateAll` — the turns
  of planned files, those for a target, and those for several.
-/

import Mathlib
import DartScaffold.Proofs.Pipeline.Accounting
import DartScaffold.Proofs.Pipeline.Writing

set_option relaxedAutoImplicit false
set_option autoImplicit false

namespace DartScaffold.Pipeline

open Dart (Artifact)

variable {p : Pipeline} {α β : Type} {w w' w'' : Workshop}

/-! ### Turns -/

/-- A planned file that is executed: the workshop that it is executed in, what becomes of it, and
the workshop after it. -/
structure Turn where
  before : Workshop
  file : Planned
  result : FileResult
  after : Workshop

namespace Turn

/-- The path of the file. -/
def path (t : Turn) : Path := Path.ofString t.file.path

/-- What the file is rendered to. -/
def rendered (p : Pipeline) (t : Turn) : Except Fault Datum :=
  ((p.render t.file.source).run.run t.before).1

/-- The file was written. -/
def Writes (t : Turn) : Prop := t.result.status = .written

/-- The execution took place. -/
def Taken (p : Pipeline) (t : Turn) : Prop :=
  (p.execute t.file).run.run t.before = (.ok t.result, t.after)

variable {t : Turn}

theorem Taken.settles (h : t.Taken p) :
    Settles p t.before.stock t.path (t.rendered p) t.result.status t.after.session.tree := by
  obtain ⟨r, w', hrun, hsettles, -⟩ := execute_cases p t.file t.before
  obtain ⟨hr, rfl⟩ := Prod.mk.inj (h.symm.trans hrun)
  rw [Except.ok.inj hr]
  exact hsettles

theorem Taken.heading (h : t.Taken p) : t.result.heading = t.file.heading :=
  yields_execute_heading p t.file t.before t.result t.after h

theorem Taken.refuses (h : t.Taken p) (hrefuses : t.before.stock.Refuses p) :
    t.after.stock.Refuses p := by
  obtain ⟨r, w', hrun, -, hforce, hanswers, -⟩ := execute_cases p t.file t.before
  obtain ⟨-, rfl⟩ := Prod.mk.inj (h.symm.trans hrun)
  refine ⟨hforce.trans hrefuses.force, hrefuses.answers.imp_right fun hno hyes => ?_⟩
  exact hno (hanswers.subset hyes)

theorem Taken.force (h : t.Taken p) : t.after.force = t.before.force := by
  obtain ⟨r, w', hrun, -, hforce, -⟩ := execute_cases p t.file t.before
  obtain ⟨-, rfl⟩ := Prod.mk.inj (h.symm.trans hrun)
  exact hforce

end Turn

/-- The turns that lead from one workshop to another.  Between them the stock stays. -/
inductive Passes (p : Pipeline) : Workshop → List Turn → Workshop → Prop
  | done {w w' : Workshop} (h : w'.stock = w.stock) : Passes p w [] w'
  | turn {w w' : Workshop} {t : Turn} {ts : List Turn} (h : t.before.stock = w.stock)
    (taken : t.Taken p) (rest : Passes p t.after ts w') : Passes p w (t :: ts) w'

namespace Passes

variable {t : Turn} {ts ts' : List Turn}

theorem of_stock (heq : w'.stock = w.stock) (h : Passes p w' ts w'') : Passes p w ts w'' := by
  cases h with
  | done h => exact .done (h.trans heq)
  | turn h taken rest => exact .turn (h.trans heq) taken rest

theorem append (h : Passes p w ts w') (h' : Passes p w' ts' w'') : Passes p w (ts ++ ts') w'' := by
  induction h with
  | done heq => exact of_stock heq h'
  | turn heq taken _ ih => exact .turn heq taken (ih h')

/-- What happens behind the last turn, and keeps the stock, belongs to the run as well. -/
theorem of_stock_after (h : Passes p w ts w') (heq : w''.stock = w'.stock) : Passes p w ts w'' := by
  have hdone := h.append (.done heq)
  rwa [List.append_nil] at hdone

/-- What comes before a turn, and what comes after it. -/
theorem split {ts₁ ts₂ : List Turn} (h : Passes p w (ts₁ ++ t :: ts₂) w') :
    t.Taken p ∧ Passes p w ts₁ t.before ∧ Passes p t.after ts₂ w' := by
  induction ts₁ generalizing w with
  | nil =>
      cases h with
      | turn heq taken rest => exact ⟨taken, .done heq, rest⟩
  | cons t₁ ts₁ ih =>
      cases h with
      | turn heq taken rest =>
          obtain ⟨ht, hbefore, hafter⟩ := ih rest
          exact ⟨ht, .turn heq taken hbefore, hafter⟩

theorem of_mem (h : Passes p w ts w') (ht : t ∈ ts) : ∃ ts₁ ts₂, ts = ts₁ ++ t :: ts₂ ∧
    t.Taken p ∧ Passes p w ts₁ t.before ∧ Passes p t.after ts₂ w' := by
  obtain ⟨ts₁, ts₂, rfl⟩ := List.append_of_mem ht
  exact ⟨ts₁, ts₂, rfl, h.split⟩

/-! ### What a run leaves as it was -/

/-- What each turn keeps, the run keeps, if it is a matter of the stock. -/
theorem induction {P : Stock → Prop} (hstep : ∀ t : Turn, t.Taken p → P t.before.stock →
    P t.after.stock) (h : Passes p w ts w') (hw : P w.stock) : P w'.stock := by
  induction h with
  | done heq =>
      rw [heq]
      exact hw
  | turn heq taken _ ih =>
      refine ih (hstep _ taken ?_)
      rw [heq]
      exact hw

theorem grows (h : Passes p w ts w') : w.session.tree.Grows w'.session.tree :=
  h.induction (P := fun k => w.session.tree.Grows k.tree)
    (fun _ taken hw => hw.trans taken.settles.grows) (.refl _)

theorem refuses (h : Passes p w ts w') (hrefuses : w.stock.Refuses p) : w'.stock.Refuses p :=
  h.induction (P := fun k => k.Refuses p) (fun _ taken hw => taken.refuses hw) hrefuses

theorem force (h : Passes p w ts w') (hforce : w.force = true) : w'.force = true :=
  h.induction (P := fun k => k.force = true) (fun _ taken hw => taken.force.trans hw) hforce

/-- A file that no turn writes does not change. -/
theorem contentAt?_of_ne (h : Passes p w ts w') {loc : FileTree.Location}
    (hne : ∀ t ∈ ts, t.Writes → w.session.tree.target t.path ≠ loc) :
    w'.session.tree.contentAt? loc = w.session.tree.contentAt? loc := by
  induction h with
  | done heq => rw [(Stock.mk.inj heq).1]
  | @turn w w' t ts heq taken rest ih =>
      have htree : t.before.session.tree = w.session.tree := (Stock.mk.inj heq).1
      have hsettles := taken.settles
      have htarget : ∀ q, t.after.session.tree.target q = w.session.tree.target q := by
        intro q
        rw [← htree]
        exact hsettles.grows.target q
      rw [ih fun t' ht' hwrites => htarget t'.path ▸ hne t' (List.mem_cons_of_mem _ ht') hwrites,
        ← htree]
      by_cases hwrites : t.Writes
      · have hother : loc ≠ t.before.session.tree.target t.path := by
          rw [htree]
          exact (hne t (List.mem_cons_self ..) hwrites).symm
        obtain ⟨s, -, -, hcontent⟩ := (hwrites ▸ hsettles).contentAt?_written
        rw [hcontent]
        exact Function.update_of_ne hother _ _
      · exact congrFun (hsettles.contentAt?_of_ne hwrites) loc

/-- **What a turn has written stays**, unless a later turn writes to the same place. -/
theorem contentAt?_of_last {ts₁ ts₂ : List Turn} (h : Passes p w (ts₁ ++ t :: ts₂) w')
    (hwrites : t.Writes)
    (hlast : ∀ t' ∈ ts₂, t'.Writes → w.session.tree.target t'.path ≠ w.session.tree.target t.path) :
    ∃ s, t.rendered p = .ok (.text s) ∧
      w'.session.tree.locate t.path = .ok (w.session.tree.target t.path) ∧
      w'.session.tree.contentAt? (w.session.tree.target t.path) = some (.text s) := by
  obtain ⟨taken, hbefore, hafter⟩ := h.split
  obtain ⟨s, hrendered, hlocate, hcontent⟩ := (hwrites ▸ taken.settles).contentAt?_written
  have htarget : t.before.session.tree.target t.path = w.session.tree.target t.path :=
    hbefore.grows.target _
  change t.after.session.tree.locate t.path = .ok (t.before.session.tree.target t.path) at hlocate
  change t.after.session.tree.contentAt? = Function.update t.before.session.tree.contentAt?
    (t.before.session.tree.target t.path) _ at hcontent
  rw [htarget] at hlocate hcontent
  refine ⟨s, hrendered, hafter.grows.locate hlocate, ?_⟩
  rw [hafter.contentAt?_of_ne, hcontent, Function.update_self]
  intro t' ht' hwrites'
  rw [(hbefore.grows.trans taken.settles.grows).target]
  exact hlast t' ht' hwrites'

/-- What a turn did not fail at is there afterwards. -/
theorem pathExists (h : Passes p w ts w') (ht : t ∈ ts) (hne : t.result.status ≠ .failed) :
    w'.session.tree.pathExists t.path = .ok true := by
  obtain ⟨ts₁, ts₂, rfl, taken, -, hafter⟩ := h.of_mem ht
  exact hafter.grows.pathExists (taken.settles.pathExists hne)

end Passes

/-! ### Computations that take turns -/

/-- Whatever a computation gives, it has taken turns that fit. -/
def Takes (p : Pipeline) (x : Work α) (P : α → List Turn → Prop) : Prop :=
  ∀ w a w', x.run.run w = (.ok a, w') → ∃ ts, Passes p w ts w' ∧ P a ts

namespace Takes

variable {P : β → List Turn → Prop} {Q : α → List Turn → Prop}

/-- What leaves the stock as it is takes no turn. -/
theorem retains {x : Work β} {Q : β → Prop} (hx : Retains Workshop.stock x) (hgives : Yields x Q)
    (h : ∀ b, Q b → P b []) : Takes p x P := by
  intro w b w' hrun
  have hstock := hx w
  rw [hrun] at hstock
  exact ⟨[], .done hstock, h b (hgives w b w' hrun)⟩

theorem imp {x : Work α} {R : α → List Turn → Prop} (hx : Takes p x Q)
    (h : ∀ a ts, Q a ts → R a ts) : Takes p x R := by
  intro w a w' hrun
  obtain ⟨ts, hpasses, ha⟩ := hx w a w' hrun
  exact ⟨ts, hpasses, h a ts ha⟩

theorem pure {b : β} (h : P b []) : Takes p (pure b) P :=
  retains (Q := fun c => c = b) (.pure b) (.pure rfl) fun _ hc => hc ▸ h

theorem bind {x : Work α} {f : α → Work β} (hx : Takes p x Q)
    (hf : ∀ a ts, Q a ts → Takes p (f a) fun b ts' => P b (ts ++ ts')) : Takes p (x >>= f) P := by
  intro w b w'' hrun
  obtain ⟨a, w', hfirst, hsecond⟩ := run_bind_eq_ok hrun
  obtain ⟨ts, hpasses, ha⟩ := hx w a w' hfirst
  obtain ⟨ts', hpasses', hb⟩ := hf a ts ha w' b w'' hsecond
  exact ⟨ts ++ ts', hpasses.append hpasses', hb⟩

/-- What leaves the stock as it is comes before the turns. -/
theorem bind_retains {x : Work α} {f : α → Work β} {R : α → Prop} (hx : Retains Workshop.stock x)
    (hgives : Yields x R) (hf : ∀ a, R a → Takes p (f a) P) : Takes p (x >>= f) P :=
  bind (Q := fun a ts => R a ∧ ts = []) (retains hx hgives fun _ ha => ⟨ha, rfl⟩)
    fun a ts h => by
      obtain ⟨ha, rfl⟩ := h
      exact hf a ha

/-- What leaves the stock as it is, whatever it gives, comes before the turns. -/
theorem bind_any {x : Work α} {f : α → Work β} (hx : Retains Workshop.stock x)
    (hf : ∀ a, Takes p (f a) P) : Takes p (x >>= f) P :=
  bind_retains (R := fun _ => True) hx (fun _ _ _ _ => trivial) fun a _ => hf a

/-- The turns of a loop are those of its steps, one after another. -/
theorem mapM {f : α → Work β} {R : α → β → List Turn → Prop} {as : List α}
    (h : ∀ a ∈ as, Takes p (f a) (R a)) : Takes p (as.mapM f) fun bs ts =>
      ∃ rows : List (β × List Turn), bs = rows.map Prod.fst ∧ ts = (rows.map Prod.snd).flatten ∧
        List.Forall₂ (fun a row => R a row.1 row.2) as rows := by
  induction as with
  | nil =>
      rw [List.mapM_nil]
      exact pure ⟨[], rfl, rfl, .nil⟩
  | cons a as ih =>
      rw [List.mapM_cons]
      refine (h a (List.mem_cons_self ..)).bind fun b ts hb => ?_
      refine (ih fun c hc => h c (List.mem_cons_of_mem _ hc)).bind fun bs ts' hbs => pure ?_
      obtain ⟨rows, rfl, rfl, hrows⟩ := hbs
      exact ⟨(b, ts) :: rows, rfl, by simp, .cons hb hrows⟩

end Takes

/-! ### Planned files -/

theorem takes_execute (p : Pipeline) (f : Planned) :
    Takes p (p.execute f) fun r ts => ∃ t : Turn, ts = [t] ∧ t.file = f ∧ t.result = r :=
  fun w r w' hrun => ⟨_, .turn (t := ⟨w, f, r, w'⟩) rfl hrun (.done rfl), _, rfl, rfl, rfl⟩

/-- **Planned files take a turn each**, in order. -/
theorem takes_run (p : Pipeline) (plan : List Planned) :
    Takes p (p.run plan) fun s ts => ts.map Turn.file = plan ∧ ts.map Turn.result = s := by
  intro w s w' hrun
  obtain ⟨ts, hpasses, rows, rfl, rfl, hrows⟩ :=
    Takes.mapM (fun f (_ : f ∈ plan) => takes_execute p f) w s w' hrun
  refine ⟨_, hpasses, ?_⟩
  clear hpasses hrun
  induction hrows with
  | nil => exact ⟨rfl, rfl⟩
  | @cons f row plan rows hrow _ ih =>
      obtain ⟨t, hts, hfile, hresult⟩ := hrow
      simp [hts, hfile, hresult, ih.1, ih.2]

/-! ### Targets -/

/-- What is done for a target: it is recorded that it cannot be analyzed, or each file that is
planned for it takes a turn. -/
inductive Attends (p : Pipeline) (components : List String) (target : String) (withRoutes : Bool) :
    Summary → List Turn → Prop
  | unanalyzed (w : Workshop) (fault : Fault)
    (hanalyze : ((p.analyze (.text target) withRoutes).run.run w).1 = .error fault)
    (hfault : isAnalysisFault fault = true) :
    Attends p components target withRoutes
      [⟨target, .failed, "analysis", target, fault.message⟩] []
  | files (w : Workshop) (m : Model) (ts : List Turn)
    (hanalyze : ((p.analyze (.text target) withRoutes).run.run w).1 = .ok m)
    (hplan : planFiles p.settings.output m components = .ok (ts.map Turn.file)) :
    Attends p components target withRoutes (ts.map Turn.result) ts

/-- Each file that is planned for a model takes a turn. -/
theorem takes_planned (p : Pipeline) (components : List String) (m : Model) :
    Takes p (do p.run (← p.planModel m (.list (components.map .text)))) fun s ts =>
      planFiles p.settings.output m components = .ok (ts.map Turn.file) ∧
        ts.map Turn.result = s :=
  Takes.bind_retains (retains_planModel p m _) (yields_planFiles p m components)
    fun plan hplan => (takes_run p plan).imp fun s ts h => ⟨by rw [h.1, hplan], h.2⟩

/-- **What is done for a target.** -/
theorem takes_generateFeature (p : Pipeline) (components : List String) (target : String)
    (withRoutes : Bool) :
    Takes p (p.generateFeature (.text target) (.list (components.map .text)) withRoutes)
      (Attends p components target withRoutes) := by
  intro w s w' hrun
  unfold generateFeature at hrun
  rw [run_bind_attempt] at hrun
  have hstock := retains_analyze p (.text target) withRoutes w
  rcases hanalyze : (p.analyze (.text target) withRoutes).run.run w with ⟨r, w₁⟩
  rw [hanalyze] at hrun hstock
  have hr : ((p.analyze (.text target) withRoutes).run.run w).1 = r := by rw [hanalyze]
  cases r with
  | ok m =>
      obtain ⟨ts, hpasses, hplan, rfl⟩ := takes_planned p components m w₁ s w' hrun
      exact ⟨ts, hpasses.of_stock hstock, .files w m ts hr hplan⟩
  | error fault =>
      by_cases hfault : isAnalysisFault fault = true
      · have hrecord : Takes p (do
            Run.logError ("Cannot analyze " ++ (Datum.text target).display ++ ": " ++ fault.message)
            return [⟨target, .failed, "analysis", target, fault.message⟩])
            (Attends p components target withRoutes) :=
          Takes.bind_any (retains_ofRun (retains_record _ _)) fun _ =>
            .pure (.unanalyzed w fault hr hfault)
        simp only [hfault, if_true] at hrun
        obtain ⟨ts, hpasses, hs⟩ := hrecord w₁ s w' hrun
        exact ⟨ts, hpasses.of_stock hstock, hs⟩
      · simp only [hfault] at hrun
        cases hrun

/-! ### The transport -/

/-- The transport takes a turn, whatever is there. -/
theorem takes_base (p : Pipeline) (components : List String) :
    Takes p (p.base components) fun s ts =>
      if "service" ∈ components then ∃ path t, Artifact.transportPath p.settings.output = .ok path ∧
        t.file = transportFile path ∧ s = [t.result] ∧ ts = [t]
      else s = [] ∧ ts = [] := by
  unfold base
  rw [any_isNamed, Group.name]
  by_cases hservice : "service" ∈ components
  · rw [if_pos (List.contains_iff_mem.2 hservice)]
    simp only [hservice, if_true]
    refine Takes.bind_retains (retains_planBase p) (yields_planBase p) fun plan hplan => ?_
    obtain ⟨path, hpath, rfl⟩ := planTransport_eq_ok hplan
    refine (takes_run p _).imp fun s ts h => ?_
    obtain ⟨hfiles, hresults⟩ := h
    obtain ⟨t, rfl, ht⟩ := List.map_eq_singleton_iff.1 hfiles
    exact ⟨path, t, hpath, ht, hresults.symm, rfl⟩
  · rw [if_neg fun h => hservice (List.contains_iff_mem.1 h)]
    simp only [hservice, if_false]
    exact .pure ⟨rfl, rfl⟩

/-- The transport takes a turn unless something is at its path. -/
theorem ensureTransport_cases {r : Option FileResult}
    (hrun : p.ensureTransport.run.run w = (.ok r, w')) :
    ∃ path there ts, Artifact.transportPath p.settings.output = .ok path ∧
      w.session.tree.pathExists (Path.ofString path.text) = .ok there ∧ Passes p w ts w' ∧
      if there then r = none ∧ ts = []
      else ∃ t, t.file = transportFile path ∧ r = some t.result ∧ ts = [t] := by
  unfold ensureTransport at hrun
  obtain ⟨plan, w₁, hplan, hrest⟩ := run_bind_eq_ok hrun
  have hstock := retains_planBase p w
  rw [hplan] at hstock
  obtain ⟨path, hpath, rfl⟩ := planTransport_eq_ok (yields_planBase p w plan w₁ hplan)
  dsimp only at hrest
  rw [run_bind, run_tree] at hrest
  dsimp only at hrest
  have htree : w₁.session.tree = w.session.tree := (Stock.mk.inj hstock).1
  rw [htree, show (transportFile path).path = path.text from rfl] at hrest
  refine ⟨path, ?_⟩
  cases hthere : w.session.tree.pathExists (Path.ofString path.text) with
  | error e =>
      rw [hthere] at hrest
      cases hrest
  | ok there =>
      rw [hthere, run_bind, run_liftFile] at hrest
      cases there with
      | true =>
          obtain ⟨hr, rfl⟩ := Prod.mk.inj hrest
          exact ⟨true, [], hpath, rfl, .done hstock, (Except.ok.inj hr).symm, rfl⟩
      | false =>
          obtain ⟨result, w₂, hexecute, hresult⟩ := run_bind_eq_ok hrest
          obtain ⟨hr, rfl⟩ := Prod.mk.inj hresult
          obtain ⟨ts, hpasses, t, rfl, hfile, rfl⟩ :=
            takes_execute p (transportFile path) w₁ result w₂ hexecute
          exact ⟨false, [t], hpath, rfl, hpasses.of_stock hstock, t, hfile,
            (Except.ok.inj hr).symm, rfl⟩

/-- The transport can be ensured if its path can be looked up. -/
theorem exists_run_ensureTransport (h : p.settings.Usable)
    (hlookup : ∀ path, Dart.Artifact.transportPath p.settings.output = .ok path →
      ∃ there, w.session.tree.pathExists (Path.ofString path.text) = .ok there) :
    ∃ r w', p.ensureTransport.run.run w = (.ok r, w') := by
  obtain ⟨plan, w₁, hplan⟩ := (EndsIn.exists_run_iff w).2 (endsIn_planBase h w)
  obtain ⟨path, hpath, rfl⟩ :=
    planTransport_eq_ok (yields_planBase p w plan w₁ hplan)
  obtain ⟨there, hthere⟩ := hlookup path hpath
  have hstock := retains_planBase p w
  rw [hplan] at hstock
  have htree : w₁.session.tree = w.session.tree := (Stock.mk.inj hstock).1
  unfold ensureTransport
  rw [run_bind, hplan]
  dsimp only
  rw [run_bind, run_tree]
  dsimp only
  rw [run_bind, run_liftFile, htree,
    show (transportFile path).path = path.text from rfl, hthere]
  cases there with
  | true => exact ⟨none, w₁, rfl⟩
  | false =>
      have hexecute : EndsIn (do return some (← p.execute (transportFile path)))
          .returns :=
        (endsIn_execute p _).bind fun r => .pure (some r)
      exact (EndsIn.exists_run_iff w₁).2 (hexecute w₁)

/-! ### Several targets -/

/-- What is done for a target among several: nothing, if it is left out. -/
inductive AttendsAmong (p : Pipeline) (components : List String) (target : String) :
    Summary → List Turn → Prop
  | leftOut (h : isExcluded p.settings (.text target) = .ok true) :
    AttendsAmong p components target [] []
  | attended {s : Summary} {ts : List Turn}
    (hkept : isExcluded p.settings (.text target) = .ok false)
    (h : Attends p components target false s ts) : AttendsAmong p components target s ts

theorem takes_generateUnlessExcluded (p : Pipeline) (components : List String) (target : String) :
    Takes p (p.generateUnlessExcluded (.list (components.map .text)) (.text target))
      (AttendsAmong p components target) := by
  unfold generateUnlessExcluded
  refine Takes.bind_retains (.liftMisuse _) (Yields.liftMisuse _) fun out hout => ?_
  cases out with
  | true => exact Takes.bind_any (retains_ofRun (retains_record _ _)) fun _ => .pure (.leftOut hout)
  | false =>
      exact (takes_generateFeature p components target false).imp fun s ts h => .attended hout h

/-- **What is done for several targets**: the transport comes first, then one target after
another. -/
theorem takes_generateAll (p : Pipeline) (targets components : List String) :
    Takes p (p.generateAll (.list (targets.map .text)) (.list (components.map .text))) fun s ts =>
      ∃ (base : Summary × List Turn) (rows : List (Summary × List Turn)),
        s = base.1 ++ (rows.map Prod.fst).flatten ∧ ts = base.2 ++ (rows.map Prod.snd).flatten ∧
        (if "service" ∈ components then
          ∃ path t, Artifact.transportPath p.settings.output = .ok path ∧
            t.file = transportFile path ∧ base.1 = [t.result] ∧ base.2 = [t]
        else base.1 = [] ∧ base.2 = []) ∧
        List.Forall₂ (fun target row => AttendsAmong p components target row.1 row.2) targets
          rows := by
  rw [generateAll_texts]
  refine (takes_base p components).bind fun base ts hbase => ?_
  refine (Takes.mapM fun t _ => takes_generateUnlessExcluded p components t).bind
    fun rest ts' hrest => .pure ?_
  obtain ⟨rows, rfl, rfl, hrows⟩ := hrest
  exact ⟨(base, ts), rows, rfl, by simp, hbase, hrows⟩

end DartScaffold.Pipeline
