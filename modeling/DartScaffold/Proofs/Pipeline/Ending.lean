/-
**How a computation ends.**

A run over several models goes on after a fault of the analysis, which is recorded, and is broken
off by any other one.  So a computation ends in one of three ways, and for most computations the
way does not depend on the state that they begin in.  How a sequence of computations ends is put
together from how its steps do.

Main definitions:

* `Pipeline.Ending`, `Pipeline.Ending.ofChecks` — the three ways, and the one that checks tell;
* `Pipeline.EndsIn` — from every state, a computation ends in one way.

Main results:

* `Pipeline.EndsIn.bind`, `Pipeline.EndsIn.bind_of_ne` — how a sequence ends;
* `Pipeline.EndsIn.bind_checks` — steps that ask for something to fit;
* `Pipeline.EndsIn.mapM`, `Pipeline.EndsIn.mapM_any` — **the steps of a loop**: it returns if all of
  them do, and one that breaks off breaks off the loop.
-/

import Mathlib
import DartScaffold.Pipeline.Basic
import DartScaffold.Proofs.Steps

set_option relaxedAutoImplicit false
set_option autoImplicit false

namespace DartScaffold.Pipeline

variable {σ α β : Type}

/-! ### The three ways -/

/-- The ways that a computation ends in: it returns, or it ends in a fault that is recorded, or in
one that breaks off the run. -/
inductive Ending where
  | returns
  | recorded
  | escapes
deriving DecidableEq, Repr

namespace Ending

/-- How a result was come to. -/
def of : Except Fault α → Ending
  | .ok _ => .returns
  | .error fault => if isAnalysisFault fault then .recorded else .escapes

/-- How checks end, each with how it ends if something does not fit: the first one that does not
tells. -/
def ofChecks : List (Bool × Ending) → Ending
  | [] => .returns
  | (fits, e) :: rest => if fits then ofChecks rest else e

theorem of_eq_returns_iff (r : Except Fault α) : of r = .returns ↔ ∃ a, r = .ok a := by
  cases r with
  | ok a => simp [of]
  | error f => by_cases h : isAnalysisFault f = true <;> simp [of, h]

theorem of_eq_recorded_iff (r : Except Fault α) :
    of r = .recorded ↔ ∃ f, r = .error f ∧ isAnalysisFault f = true := by
  cases r with
  | ok a => simp [of]
  | error f => by_cases h : isAnalysisFault f = true <;> simp [of, h]

end Ending

/-- What follows an attempt is given what the attempted computation came to. -/
theorem run_bind_attempt (x : Work α) (f : Except Fault α → Work β) (w : Workshop) :
    (Work.attempt x >>= f).run.run w = (f (x.run.run w).1).run.run (x.run.run w).2 :=
  run_bind (Work.attempt x) f w

/-- From every state, a computation ends in one way. -/
def EndsIn (x : ExceptT Fault (StateM σ) α) (e : Ending) : Prop :=
  ∀ s, Ending.of (x.run.run s).1 = e

namespace EndsIn

/-! ### Steps -/

/-- A computation that returns gives a value and leaves a state behind. -/
theorem exists_run_iff {x : ExceptT Fault (StateM σ) α} (s : σ) :
    (∃ a s', x.run.run s = (.ok a, s')) ↔ Ending.of (x.run.run s).1 = .returns := by
  rw [Ending.of_eq_returns_iff]
  constructor
  · rintro ⟨a, s', h⟩
    exact ⟨a, by rw [h]⟩
  · rintro ⟨a, h⟩
    exact ⟨a, _, run_of_fst h⟩

theorem pure (a : α) : EndsIn (pure a : ExceptT Fault (StateM σ) α) .returns := fun _ => rfl

theorem throw (f : Fault) :
    EndsIn (throw f : ExceptT Fault (StateM σ) α) (Ending.of (.error f : Except Fault α)) :=
  fun _ => rfl

/-- A step that returns leaves it to the rest how the sequence ends. -/
theorem bind {x : ExceptT Fault (StateM σ) α} {f : α → ExceptT Fault (StateM σ) β} {e : Ending}
    (hx : EndsIn x .returns) (hf : ∀ a, EndsIn (f a) e) : EndsIn (x >>= f) e := by
  intro s
  obtain ⟨a, ha⟩ := (Ending.of_eq_returns_iff _).1 (hx s)
  rw [run_bind]
  rcases hrun : x.run.run s with ⟨r, s'⟩
  rw [hrun] at ha
  rw [show r = .ok a from ha]
  exact hf a s'

/-- What follows a fault is left out. -/
theorem bind_of_ne {x : ExceptT Fault (StateM σ) α} {e : Ending} (hne : e ≠ .returns)
    (hx : EndsIn x e) (f : α → ExceptT Fault (StateM σ) β) : EndsIn (x >>= f) e := by
  intro s
  have hfirst := hx s
  rw [run_bind]
  rcases hrun : x.run.run s with ⟨r, s'⟩
  rw [hrun] at hfirst
  cases r with
  | ok a => exact absurd hfirst.symm hne
  | error fault => exact hfirst

/-- What returns leaves it to the step before it how the sequence ends. -/
theorem bind_last {x : ExceptT Fault (StateM σ) α} {f : α → ExceptT Fault (StateM σ) β} {e : Ending}
    (hx : EndsIn x e) (hf : ∀ a, EndsIn (f a) .returns) : EndsIn (x >>= f) e := by
  by_cases he : e = .returns
  · subst he
    exact hx.bind hf
  · exact bind_of_ne he hx f

/-- Steps that ask for something to fit, one after another. -/
theorem bind_checks {x : ExceptT Fault (StateM σ) α} {f : α → ExceptT Fault (StateM σ) β}
    {cs rest : List (Bool × Ending)} (hne : ∀ c ∈ cs, c.2 ≠ .returns)
    (hx : EndsIn x (Ending.ofChecks cs)) (hf : ∀ a, EndsIn (f a) (Ending.ofChecks rest)) :
    EndsIn (x >>= f) (Ending.ofChecks (cs ++ rest)) := by
  induction cs with
  | nil => exact hx.bind hf
  | cons c cs ih =>
      obtain ⟨fits, e⟩ := c
      cases fits with
      | true => exact ih (fun d hd => hne d (List.mem_cons_of_mem _ hd)) hx
      | false => exact bind_of_ne (hne _ (List.mem_cons_self ..)) hx f

/-! ### Values and faults -/

/-- A value that is known can be used in what follows. -/
theorem bind_value {x : ExceptT Fault (StateM σ) α} {a : α} (hx : ∀ s, x.run.run s = (.ok a, s))
    {f : α → ExceptT Fault (StateM σ) β} {e : Ending} (hf : EndsIn (f a) e) :
    EndsIn (x >>= f) e := by
  intro s
  rw [run_bind, hx]
  exact hf s

theorem bind_fault {x : Except Fault α} {a : α} (hx : x = .ok a)
    {f : α → ExceptT Fault (StateM σ) β} {e : Ending} (hf : EndsIn (f a) e) :
    EndsIn (liftM x >>= f) e := by
  subst hx
  exact bind_value (fun _ => rfl) hf

theorem bind_misuse {x : Except Misuse α} {a : α} (hx : x = .ok a)
    {f : α → ExceptT Fault (StateM σ) β} {e : Ending} (hf : EndsIn (f a) e) :
    EndsIn (liftM x >>= f) e := by
  subst hx
  exact bind_value (fun _ => rfl) hf

theorem bind_file {x : Except FileError α} {a : α} (hx : x = .ok a)
    {f : α → ExceptT Fault (StateM σ) β} {e : Ending} (hf : EndsIn (f a) e) :
    EndsIn (liftM x >>= f) e := by
  subst hx
  exact bind_value (fun _ => rfl) hf

/-! ### Runs and works -/

theorem record (severity : Severity) (texts : List String) :
    EndsIn (Run.record severity texts) .returns := fun _ => rfl

/-- A run on the session of a workshop ends as it does. -/
theorem ofRun {x : Run α} {e : Ending} (hx : EndsIn x e) : EndsIn (Work.ofRun x) e :=
  fun w => hx w.session

/-- What follows an attempt may use how the attempted computation ends. -/
theorem bind_attempt {x : Work α} {f : Except Fault α → Work β} {e e' : Ending}
    (hx : EndsIn x e) (hf : ∀ r, Ending.of r = e → EndsIn (f r) e') :
    EndsIn (Work.attempt x >>= f) e' := by
  intro w
  rw [run_bind_attempt]
  exact hf _ (hx w) _

theorem attempt (x : Work α) : EndsIn (Work.attempt x) .returns := fun _ => rfl

/-! ### Loops -/

/-- A loop whose steps return does so. -/
theorem mapM {f : α → ExceptT Fault (StateM σ) β} {as : List α}
    (h : ∀ a ∈ as, EndsIn (f a) .returns) : EndsIn (as.mapM f) .returns := by
  induction as with
  | nil =>
      rw [List.mapM_nil]
      exact pure []
  | cons a as ih =>
      have ih := ih fun b hb => h b (List.mem_cons_of_mem _ hb)
      rw [List.mapM_cons]
      exact (h a (List.mem_cons_self ..)).bind fun b => ih.bind fun bs => pure _

/-- A loop whose steps return or break off is broken off by the first one that does. -/
theorem mapM_any {f : α → ExceptT Fault (StateM σ) β} {breaks : α → Bool}
    (h : ∀ a, EndsIn (f a) (if breaks a then .escapes else .returns)) (as : List α) :
    EndsIn (as.mapM f) (if as.any breaks then .escapes else .returns) := by
  induction as with
  | nil =>
      rw [List.mapM_nil]
      exact pure []
  | cons a as ih =>
      have hfirst := h a
      rw [List.mapM_cons, List.any_cons]
      cases hbreaks : breaks a with
      | true =>
          rw [hbreaks] at hfirst
          exact bind_of_ne (by decide) hfirst _
      | false =>
          -- The first step returns, so it is left to the rest how the loop ends.
          rw [hbreaks] at hfirst
          rw [Bool.false_or]
          exact bind hfirst fun b => ih.bind_last fun bs => pure _

end EndsIn

/-- What an attempt is followed by may use how the attempted computation ends. -/
theorem Yields.bind_attempt {P : β → Prop} {x : Work α} {f : Except Fault α → Work β} {e : Ending}
    (hx : EndsIn x e) (hf : ∀ r, Ending.of r = e → Yields (f r) P) :
    Yields (Work.attempt x >>= f) P := by
  intro w b w' h
  rw [run_bind_attempt] at h
  exact hf _ (hx w) _ b w' h

/-- What an attempted computation comes to, it comes to from the state that it begins in. -/
theorem Yields.bind_attempt_run {P : β → Prop} {x : Work α} {f : Except Fault α → Work β}
    (hf : ∀ w, Yields (f (x.run.run w).1) P) : Yields (Work.attempt x >>= f) P := by
  intro w b w' h
  rw [run_bind_attempt] at h
  exact hf w _ b w' h

end DartScaffold.Pipeline
