/-
**What does not depend on the log.**

Everything that a run logs is kept in its session, but nothing looks at it again.  So a computation
from two workshops that differ in their logs only gives the same in both, and leaves two workshops
behind that differ in their logs only.  The analysis of a model does even less: whatever it ends
in, it changes nothing but the log.

Main definitions:

* `Session.unlogged`, `Pipeline.Workshop.unlogged` — a state without its log;
* `Blind` — a computation that does not look at what a view leaves out;
* `LogsOnly` — a computation that, besides, changes only what a view leaves out.

Main results:

* `Blind.bind`, `LogsOnly.bind` — sequences;
* `Analysis.logsOnly_analyze`, `Pipeline.analyze_eq` — the analysis of a model changes nothing but
  the log, and what it ends in depends on nothing that a session holds;
* `Pipeline.blind_generateUnlessExcluded` — **what is generated for a target does not depend on
  the log**.
-/

import Mathlib
import DartScaffold.Pipeline.Basic
import DartScaffold.Proofs.Steps

set_option relaxedAutoImplicit false
set_option autoImplicit false

namespace DartScaffold

open Pipeline (Work Workshop)

variable {σ α β : Type} {view : σ → σ}

/-! ### Views -/

/-- A session without its log. -/
def Session.unlogged (s : Session) : Session := { s with log := [] }

/-- A workshop without the log of its session. -/
def Pipeline.Workshop.unlogged (w : Workshop) : Workshop :=
  { w with session := w.session.unlogged }

/-- A computation does not look at what a view leaves out, and changes the rest in the same way. -/
def Blind (view : σ → σ) (x : ExceptT Fault (StateM σ) α) : Prop :=
  ∀ s t, view s = view t →
    (x.run.run s).1 = (x.run.run t).1 ∧ view (x.run.run s).2 = view (x.run.run t).2

/-- A computation does not look at what a view leaves out, and changes nothing else. -/
structure LogsOnly (view : σ → σ) (x : ExceptT Fault (StateM σ) α) : Prop where
  blind : Blind view x
  same : ∀ s, view (x.run.run s).2 = view s

namespace Blind

theorem pure (a : α) : Blind view (pure a : ExceptT Fault (StateM σ) α) := fun _ _ h => ⟨rfl, h⟩

theorem throw (f : Fault) : Blind view (throw f : ExceptT Fault (StateM σ) α) :=
  fun _ _ h => ⟨rfl, h⟩

theorem liftFault (x : Except Fault α) :
    Blind view (liftM x : ExceptT Fault (StateM σ) α) := fun _ _ h => ⟨rfl, h⟩

theorem liftMisuse (x : Except Misuse α) :
    Blind view (liftM x : ExceptT Fault (StateM σ) α) := fun _ _ h => ⟨rfl, h⟩

theorem liftFile (x : Except FileError α) :
    Blind view (liftM x : ExceptT Fault (StateM σ) α) := fun _ _ h => ⟨rfl, h⟩

theorem bind {x : ExceptT Fault (StateM σ) α} {f : α → ExceptT Fault (StateM σ) β}
    (hx : Blind view x) (hf : ∀ a, Blind view (f a)) : Blind view (x >>= f) := by
  intro s t h
  obtain ⟨hresult, hstate⟩ := hx s t h
  rw [run_bind, run_bind]
  rcases hs : x.run.run s with ⟨r, s'⟩
  rcases ht : x.run.run t with ⟨r', t'⟩
  rw [hs, ht] at hresult hstate
  obtain rfl : r = r' := hresult
  -- Both runs give the same, so both go on or neither does.
  cases r with
  | ok a => exact hf a s' t' hstate
  | error f => exact ⟨rfl, hstate⟩

theorem ite {c : Prop} [Decidable c] {x y : ExceptT Fault (StateM σ) α} (hx : Blind view x)
    (hy : Blind view y) : Blind view (if c then x else y) := by
  by_cases h : c
  · rw [if_pos h]
    exact hx
  · rw [if_neg h]
    exact hy

theorem mapM {f : α → ExceptT Fault (StateM σ) β} (hf : ∀ a, Blind view (f a)) (as : List α) :
    Blind view (as.mapM f) := by
  induction as with
  | nil =>
      rw [List.mapM_nil]
      exact pure []
  | cons a as ih =>
      rw [List.mapM_cons]
      exact (hf a).bind fun b => ih.bind fun bs => pure (b :: bs)

end Blind

namespace LogsOnly

theorem pure (a : α) : LogsOnly view (pure a : ExceptT Fault (StateM σ) α) :=
  ⟨.pure a, fun _ => rfl⟩

theorem throw (f : Fault) : LogsOnly view (throw f : ExceptT Fault (StateM σ) α) :=
  ⟨.throw f, fun _ => rfl⟩

theorem liftFault (x : Except Fault α) :
    LogsOnly view (liftM x : ExceptT Fault (StateM σ) α) := ⟨.liftFault x, fun _ => rfl⟩

theorem liftMisuse (x : Except Misuse α) :
    LogsOnly view (liftM x : ExceptT Fault (StateM σ) α) := ⟨.liftMisuse x, fun _ => rfl⟩

theorem bind {x : ExceptT Fault (StateM σ) α} {f : α → ExceptT Fault (StateM σ) β}
    (hx : LogsOnly view x) (hf : ∀ a, LogsOnly view (f a)) : LogsOnly view (x >>= f) := by
  refine ⟨hx.blind.bind fun a => (hf a).blind, ?_⟩
  intro s
  have hfirst := hx.same s
  rw [run_bind]
  rcases hs : x.run.run s with ⟨r, s'⟩
  rw [hs] at hfirst
  cases r with
  | ok a => exact ((hf a).same s').trans hfirst
  | error f => exact hfirst

theorem ite {c : Prop} [Decidable c] {x y : ExceptT Fault (StateM σ) α} (hx : LogsOnly view x)
    (hy : LogsOnly view y) : LogsOnly view (if c then x else y) := by
  by_cases h : c
  · rw [if_pos h]
    exact hx
  · rw [if_neg h]
    exact hy

theorem foldlM {f : β → α → ExceptT Fault (StateM σ) β} (hf : ∀ b a, LogsOnly view (f b a))
    (as : List α) (b : β) : LogsOnly view (as.foldlM f b) := by
  induction as generalizing b with
  | nil => exact pure b
  | cons a as ih =>
      rw [List.foldlM_cons]
      exact (hf b a).bind ih

end LogsOnly

/-! ### Sessions -/

/-- Sessions that differ in their logs only. -/
theorem Session.exists_log {s t : Session} (h : s.unlogged = t.unlogged) :
    ∃ log, t = { s with log := log } := by
  refine ⟨t.log, ?_⟩
  cases s
  cases t
  simp only [Session.unlogged, Session.mk.injEq] at h ⊢
  simp [h]

/-- Logging logs only. -/
theorem logsOnly_record (severity : Severity) (texts : List String) :
    LogsOnly Session.unlogged (Run.record severity texts) := by
  have hsame : ∀ s, ((Run.record severity texts).run.run s).2.unlogged = s.unlogged := by
    intro s
    show (if severity.reaches s.threshold then _ else s : Session).unlogged = _
    by_cases h : severity.reaches s.threshold = true
    · rw [if_pos h]
      rfl
    · rw [if_neg h]
  exact ⟨fun s t h => ⟨rfl, (hsame s).trans (h.trans (hsame t).symm)⟩, hsame⟩

theorem blind_tree : Blind Session.unlogged Run.tree := by
  intro s t h
  obtain ⟨log, rfl⟩ := Session.exists_log h
  exact ⟨rfl, rfl⟩

theorem blind_ask (question : String) : Blind Session.unlogged (Run.ask question) := by
  intro s t h
  obtain ⟨log, rfl⟩ := Session.exists_log h
  exact ⟨rfl, rfl⟩

/-! ### The analysis of a model -/

namespace Analysis

open Backend (ModelView RelationEntry)

variable {view : Session → Session}
  (hrecord : ∀ severity texts, LogsOnly view (Run.record severity texts))
  (schema : Except SchemaFault Backend.Schema) (options : AnalysisSettings) (v : ModelView)

include hrecord

theorem logsOnly_attributesOf : LogsOnly view (attributesOf schema options v) := by
  unfold attributesOf
  cases schema with
  | error fault => exact .throw _
  | ok schema =>
      refine (LogsOnly.liftFault _).bind fun table => (LogsOnly.liftMisuse _).bind fun there => ?_
      refine .ite (.pure _) (.ite (.bind (.throw _) fun _ => ?_) ?_)
      · exact (LogsOnly.liftFault _).bind fun name => (hrecord _ _).bind fun _ => .pure _
      · exact (LogsOnly.liftFault _).bind fun name => (hrecord _ _).bind fun _ => .pure _

theorem logsOnly_addDeclared (relations : Entries String Relationship)
    (entry : String × RelationEntry) :
    LogsOnly view (addDeclared v relations entry) := by
  unfold addDeclared
  split
  · exact .pure _
  · split
    · exact .pure _
    · exact (hrecord _ _).bind fun _ => .pure _
  · exact (LogsOnly.liftFault _).bind fun _ => .throw _

theorem logsOnly_probe (relations : Entries String Relationship) (m : String × Backend.Member) :
    LogsOnly view (probe options v relations m) := by
  unfold probe
  refine .ite (.pure _) ?_
  split
  · exact .pure _
  · exact .ite ((hrecord _ _).bind fun _ => .pure _) (.pure _)
  · exact .pure _

theorem logsOnly_relationsOf : LogsOnly view (relationsOf options v) := by
  unfold relationsOf
  refine .ite (.pure _) ((LogsOnly.liftFault _).bind fun declared => ?_)
  split
  · exact .foldlM (logsOnly_addDeclared hrecord v) _ _
  · exact (LogsOnly.liftFault _).bind fun _ => .throw _
  · exact .ite (.foldlM (logsOnly_probe hrecord options v) _ _) (.pure _)

/-- The analysis of a model logs, and does nothing else with its session. -/
theorem logsOnly_analyze : LogsOnly view (analyze schema options v) := by
  unfold analyze
  refine (LogsOnly.liftFault _).bind fun _ => ?_
  refine (LogsOnly.liftFault _).bind fun _ => ?_
  refine (LogsOnly.liftMisuse _).bind fun _ => ?_
  refine (LogsOnly.liftFault _).bind fun _ => ?_
  refine (logsOnly_attributesOf hrecord schema options v).bind fun _ => ?_
  refine (logsOnly_relationsOf hrecord options v).bind fun _ => ?_
  refine (LogsOnly.liftFault _).bind fun _ => ?_
  iterate 5
    refine (LogsOnly.liftFault _).bind fun _ => ?_
    refine (LogsOnly.liftMisuse _).bind fun _ => ?_
  refine (LogsOnly.liftFault _).bind fun _ => ?_
  refine (LogsOnly.liftFault _).bind fun _ => ?_
  exact .pure _

omit hrecord in
/-- So what it ends in does not depend on its session. -/
theorem analyze_eq (s t : Session) :
    ((analyze schema options v).run.run s).1 = ((analyze schema options v).run.run t).1 := by
  have hblind : ∀ severity texts, LogsOnly (fun _ => s) (Run.record severity texts) :=
    fun _ _ => ⟨fun _ _ _ => ⟨rfl, rfl⟩, fun _ => rfl⟩
  exact ((logsOnly_analyze hblind schema options v).blind s t rfl).1

end Analysis

/-! ### Libraries and generators -/

theorem blind_presentDirectories (directories : List Path) :
    Blind Session.unlogged (Template.Library.presentDirectories directories) := by
  induction directories with
  | nil => exact .pure []
  | cons d rest ih =>
      unfold Template.Library.presentDirectories
      refine blind_tree.bind fun tree => (Blind.liftFile _).bind fun there => ?_
      exact .ite ((logsOnly_record _ _).blind.bind fun _ => ih.bind fun _ => .pure _)
        (ih.bind fun _ => .pure _)

theorem blind_make (component : Dart.Component) (settings : Settings) :
    Blind Session.unlogged (Dart.Generator.make component settings) := by
  unfold Dart.Generator.make Template.Library.make
  refine (Blind.liftMisuse _).bind fun directories => ?_
  refine Blind.bind ((blind_presentDirectories directories).bind fun present => ?_)
    fun library => .pure _
  exact blind_tree.bind fun tree => (Blind.pure _).bind fun last => .pure _

/-! ### Workshops -/

namespace Pipeline

/-- Workshops that differ in their logs only. -/
theorem Workshop.exists_log {w w' : Workshop} (h : w.unlogged = w'.unlogged) :
    ∃ log, w' = { w with session := { w.session with log := log } } := by
  cases w
  cases w'
  simp only [Workshop.unlogged, Workshop.mk.injEq] at h
  obtain ⟨hsession, rfl, rfl, rfl⟩ := h
  obtain ⟨log, rfl⟩ := Session.exists_log hsession
  exact ⟨log, rfl⟩

theorem Workshop.unlogged_session {w : Workshop} {s t : Session} (h : s.unlogged = t.unlogged) :
    ({ w with session := s } : Workshop).unlogged = { w with session := t }.unlogged := by
  obtain ⟨log, rfl⟩ := Session.exists_log h
  rfl

/-- What a run on the session of a workshop comes to. -/
theorem run_liftRun (x : Run α) (w : Workshop) : (liftM x : Work α).run.run w =
    ((x.run.run w.session).1, { w with session := (x.run.run w.session).2 }) := rfl

/-- A run on the session of a workshop. -/
theorem blind_ofRun {x : Run α} (hx : Blind Session.unlogged x) :
    Blind Workshop.unlogged (Work.ofRun x) := by
  intro w w' h
  obtain ⟨log, rfl⟩ := Workshop.exists_log h
  obtain ⟨hresult, hstate⟩ := hx w.session { w.session with log := log } rfl
  exact ⟨hresult, Workshop.unlogged_session hstate⟩

theorem logsOnly_ofRun {x : Run α} (hx : LogsOnly Session.unlogged x) :
    LogsOnly Workshop.unlogged (Work.ofRun x) :=
  ⟨blind_ofRun hx.blind, fun w => Workshop.unlogged_session (hx.same w.session)⟩

/-- What is used of a workshop does not depend on its log. -/
theorem blind_now {f : Workshop → Work α} (hf : ∀ w, Blind Workshop.unlogged (f w))
    (hlog : ∀ w log, f { w with session := { w.session with log := log } } = f w) :
    Blind Workshop.unlogged (Work.now >>= f) := by
  intro w w' h
  obtain ⟨log, rfl⟩ := Workshop.exists_log h
  have hnow : ∀ v, (Work.now >>= f).run.run v = (f v).run.run v := fun v => run_bind _ f v
  rw [hnow, hnow, hlog w log]
  exact hf w _ _ h

/-- A change that leaves the log alone. -/
theorem blind_change {f : Workshop → Workshop}
    (hlog : ∀ w log, (f { w with session := { w.session with log := log } }).unlogged =
      (f w).unlogged) : Blind Workshop.unlogged (Work.change f) := by
  intro w w' h
  obtain ⟨log, rfl⟩ := Workshop.exists_log h
  exact ⟨rfl, (hlog w log).symm⟩

theorem blind_attempt {x : Work α} (hx : Blind Workshop.unlogged x) :
    Blind Workshop.unlogged (Work.attempt x) := by
  intro w w' h
  obtain ⟨hresult, hstate⟩ := hx w w' h
  exact ⟨congrArg Except.ok hresult, hstate⟩

variable (p : Pipeline)

/-! ### Writing -/

theorem blind_mayWrite (path : Path) : Blind Workshop.unlogged (p.mayWrite path) := by
  unfold mayWrite
  refine (blind_ofRun blind_tree).bind fun tree => (Blind.liftFile _).bind fun there => ?_
  refine blind_now (fun w => .ite (.pure true) ?_) fun _ _ => rfl
  split
  · exact .pure false
  · exact blind_ofRun (blind_ask _)

theorem blind_setTree (tree : FileTree) : Blind Workshop.unlogged (setTree tree) :=
  blind_change fun _ _ => rfl

theorem blind_makeDirectories (directory : Path) :
    Blind Workshop.unlogged (makeDirectories directory) := by
  unfold makeDirectories
  refine (blind_ofRun blind_tree).bind fun tree => ?_
  exact (blind_setTree _).bind fun _ => Blind.liftFile _

theorem blind_write (file : String) (content : Datum) :
    Blind Workshop.unlogged (p.write file content) := by
  unfold write
  refine (blind_mayWrite p _).bind fun may => .ite (.pure _) ?_
  have hrest : Blind Workshop.unlogged (do
      let text ← (writtenText content : Except Misuse String)
      setTree (← ((← Run.tree).write (Path.ofString file) text : Except FileError FileTree))
      return Status.written : Work Status) := by
    refine (Blind.liftMisuse _).bind fun text => ?_
    refine (blind_ofRun blind_tree).bind fun tree => (Blind.liftFile _).bind fun written => ?_
    exact (blind_setTree written).bind fun _ => .pure _
  refine (blind_ofRun blind_tree).bind fun tree => (Blind.liftFile _).bind fun there => ?_
  exact .ite ((blind_makeDirectories _).bind fun _ => hrest) hrest

/-! ### Generating -/

theorem blind_generator (name : String) : Blind Workshop.unlogged (p.generator name) := by
  unfold generator
  refine blind_now (fun w => ?_) fun _ _ => rfl
  split
  · exact .pure _
  · refine (blind_ofRun ?_).bind fun g => ?_
    · exact (Blind.liftFault _).bind fun c => (Blind.pure _).bind fun s => blind_make c s
    · exact (blind_change fun _ _ => rfl).bind fun _ => .pure g

theorem blind_render (source : Source) : Blind Workshop.unlogged (p.render source) := by
  unfold render
  cases source with
  | given content => exact .pure content
  | fails reason => exact .throw _
  | artifact a m =>
      refine (blind_generator p _).bind fun g => (blind_ofRun blind_tree).bind fun tree => ?_
      refine (blind_ofRun (logsOnly_record _ _).blind).bind fun _ => ?_
      refine (blind_change fun _ _ => rfl).bind fun _ => ?_
      exact (Blind.liftFault _).bind fun text => .pure _

theorem blind_execute (f : Planned) : Blind Workshop.unlogged (p.execute f) := by
  unfold execute
  refine Blind.bind (blind_attempt ?_) fun result => ?_
  · exact (blind_render p f.source).bind fun content => blind_write p f.path content
  · split
    · exact .pure _
    · exact (blind_ofRun (logsOnly_record _ _).blind).bind fun _ => .pure _

theorem blind_run (plan : List Planned) : Blind Workshop.unlogged (p.run plan) :=
  .mapM (blind_execute p) plan

theorem blind_planModel (m : Model) (names : Datum) :
    Blind Workshop.unlogged (p.planModel m names) := by
  unfold planModel
  refine (Blind.liftMisuse _).bind fun names => Blind.bind (.mapM (fun g => ?_) _) fun _ => .pure _
  exact (blind_generator p _).bind fun _ => .liftMisuse _

/-! ### Targets -/

/-- The analysis of a model changes nothing but the log. -/
theorem logsOnly_analyze (model : Datum) :
    LogsOnly Workshop.unlogged (p.analyze model false) := by
  unfold analyze
  refine (LogsOnly.liftFault _).bind fun view => ?_
  exact (logsOnly_ofRun (Analysis.logsOnly_analyze logsOnly_record _ _ view)).bind fun m => .pure m

/-- What it ends in does not depend on the workshop. -/
theorem analyze_eq (model : Datum) (w w' : Workshop) :
    ((p.analyze model false).run.run w).1 = ((p.analyze model false).run.run w').1 := by
  unfold analyze
  rw [run_bind, run_bind]
  cases hmodel : p.modelOf model with
  | error fault => rfl
  | ok view =>
      have hview : ∀ u : Workshop, (liftM (Except.ok view : Except Fault Backend.ModelView) :
          Work Backend.ModelView).run.run u = (.ok view, u) := fun _ => rfl
      simp only [hview]
      rw [run_bind, run_bind]
      have hsame := Analysis.analyze_eq p.backend.schema p.settings.analysis view w.session
        w'.session
      rw [run_liftRun, run_liftRun, hsame]
      cases ((Analysis.analyze p.backend.schema p.settings.analysis view).run.run w'.session).1 <;>
        rfl

theorem blind_generateFeature (model groups : Datum) :
    Blind Workshop.unlogged (p.generateFeature model groups false) := by
  unfold generateFeature
  refine (blind_attempt (logsOnly_analyze p model).blind).bind fun result => ?_
  split
  · exact (blind_planModel p _ groups).bind fun plan => blind_run p plan
  · refine .ite ?_ (.throw _)
    exact (blind_ofRun (logsOnly_record _ _).blind).bind fun _ => .pure _

/-- **What is generated for a target does not depend on the log.** -/
theorem blind_generateUnlessExcluded (groups model : Datum) :
    Blind Workshop.unlogged (p.generateUnlessExcluded groups model) := by
  unfold generateUnlessExcluded
  refine (Blind.liftMisuse _).bind fun out => .ite ?_ (blind_generateFeature p model groups)
  exact (blind_ofRun (logsOnly_record _ _).blind).bind fun _ => .pure _

end Pipeline

end DartScaffold
