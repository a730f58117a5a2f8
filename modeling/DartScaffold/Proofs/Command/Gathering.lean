/-
**What a task comes to before it is shown.**

A task prints what it is about, generates files, and shows the results.  Whatever the console
refuses of the results it refuses when all files have been executed.  So a task is taken apart here:
it gathers results, and what it has gathered is printed behind that and tells the exit code.  A line
that shows how far the run has come makes no difference, since a watched run does what it does when
it is not watched.

Main definitions:

* `Command.Task.gather` — a task that shows no results, but gives them;
* `Command.Concludes` — a computation that shows what another one gives.

Main results:

* `Command.run_showingProgress` — work whose results are shown as they are come to;
* `Command.concludes_perform` — **a task shows what it gathers**;
* `Command.Concludes.run_ok`, `Command.Concludes.exists_run` — the code that is given with it.
-/

import Mathlib
import DartScaffold.Proofs.Command.Shown
import DartScaffold.Proofs.Pipeline.Watched
import DartScaffold.Proofs.Pipeline.Writing

set_option relaxedAutoImplicit false
set_option autoImplicit false

namespace DartScaffold.Command

open Pipeline (Work Watched Workshop Group Summary Ending EndsIn Reports)

variable {α : Type} {c : Console} {p : Pipeline} {t : Task} {w w' : Workshop} {s : Summary}

/-! ### Printing -/

theorem retains_print (c : Console) (what : Printed) :
    Retains Workshop.stock (liftM (Run.print c what) : Work Unit) := by
  intro w
  unfold Run.print
  cases c.refusal? what with
  | none => rfl
  | some reason => rfl

theorem retains_printAll (c : Console) (whats : List Printed) :
    Retains Workshop.stock (printAll c whats) := by
  unfold printAll
  induction whats with
  | nil => exact .pure _
  | cons what rest ih => exact (retains_print c what).bind fun _ => ih

theorem printAll_cons (c : Console) (what : Printed) (whats : List Printed) :
    printAll c (what :: whats) = (do Run.print c what; printAll c whats) := rfl

theorem endsIn_print {what : Printed} (h : c.refusal? what = none) :
    EndsIn (liftM (Run.print c what) : Work Unit) .returns := by
  intro w
  unfold Run.print
  rw [h]
  rfl

theorem endsIn_printAll {whats : List Printed} (h : ∀ what ∈ whats, c.refusal? what = none) :
    EndsIn (printAll c whats) .returns := by
  unfold printAll
  induction whats with
  | nil => exact .pure _
  | cons what rest ih =>
      have hrest := ih fun what hwhat => h what (List.mem_cons_of_mem _ hwhat)
      exact (endsIn_print (h what (List.mem_cons_self ..))).bind fun _ => hrest

/-! ### Showing results -/

/-- Work whose results are shown as they are come to: it is the work alone, and behind it the line
of progress is printed. -/
theorem run_showingProgress {x : Watched Summary} {y : Work Summary}
    (h : Reports x y [] fun s => [] ++ s) (c : Console) (w : Workshop) :
    ∃ reported, (showingProgress c x).run.run w = (do
        Run.print c (progressLines reported)
        ((y.run.run w).1 : Except Fault Summary) : Work Summary).run.run (y.run.run w).2 ∧
      ∀ s, (y.run.run w).1 = .ok s → reported = s := by
  obtain ⟨reported, hrun, hreported⟩ := h w
  have htraced : x.traced.run.run w = (.ok ((y.run.run w).1, reported), (y.run.run w).2) := by
    show (Except.ok ((x.run.run (w, [])).1, (x.run.run (w, [])).2.2), (x.run.run (w, [])).2.1) = _
    rw [hrun]
  refine ⟨reported, ?_, hreported⟩
  unfold showingProgress
  rw [run_bind, htraced]

/-- A computation does what another one does, prints something, and gives the exit code of its
results.  What is printed is in order if the results are legible.  If the other one ends in a fault,
no code is given. -/
def Concludes (c : Console) (x : Work Nat) (y : Work Summary) : Prop :=
  ∀ w, (∀ s w₁, y.run.run w = (.ok s, w₁) → ∃ whats,
      ((∀ r ∈ s, IsLegible r) → ∀ what ∈ whats, what.IsInOrder) ∧
      x.run.run w = (printAll c whats >>= fun _ => pure s.exitCode).run.run w₁) ∧
    ∀ code w', x.run.run w = (.ok code, w') → ∃ s w₁, y.run.run w = (.ok s, w₁)

namespace Concludes

variable {x : Work Nat} {y : Work Summary}

/-- The first step may be the same for both. -/
theorem bind {z : Work α} {f : α → Work Nat} {g : α → Work Summary}
    (h : ∀ a, Concludes c (f a) (g a)) : Concludes c (z >>= f) (z >>= g) := by
  intro w
  rw [run_bind, run_bind]
  rcases z.run.run w with ⟨r, w₀⟩
  cases r with
  | error fault => exact ⟨fun _ _ hrun => (nomatch hrun), fun _ _ hrun => (nomatch hrun)⟩
  | ok a => exact h a w₀

/-- Nothing is gathered, and something else is printed than results. -/
theorem nothing {what : Printed} (h : what.IsInOrder) :
    Concludes c (do Run.print c what; return 0) (return []) := by
  refine fun w => ⟨fun s w₁ hrun => ⟨[what], fun _ => ?_, ?_⟩, fun _ _ _ => ⟨[], w, rfl⟩⟩
  · intro what' hwhat
    obtain rfl := List.mem_singleton.1 hwhat
    exact h
  · obtain ⟨hs, rfl⟩ := Prod.mk.inj hrun
    obtain rfl := Except.ok.inj hs
    rw [printAll_cons, bind_assoc]
    rfl

/-- Results are printed as a table, perhaps with others that were there before. -/
theorem report (base : Summary) (z : Work Summary) :
    Concludes c (do report c (base ++ (← z))) (do return base ++ (← z)) := by
  refine bind fun rest w => ⟨fun s w₁ hrun => ?_, fun _ _ _ => ⟨_, w, rfl⟩⟩
  obtain ⟨hs, rfl⟩ := Prod.mk.inj hrun
  obtain rfl := Except.ok.inj hs
  exact ⟨summaryLines (base ++ rest), isInOrder_summaryLines, rfl⟩

/-- In front of the table stands the line of progress, if there is one. -/
theorem showing {x : Watched Summary} {z : Work Summary} (h : Reports x z [] fun s => [] ++ s)
    (base : Summary) :
    Concludes c (do Command.report c (base ++ (← showingProgress c x)))
      (do return base ++ (← z)) := by
  intro w
  obtain ⟨reported, hrun, hreported⟩ := run_showingProgress h c w
  rcases hz : z.run.run w with ⟨r, w₀⟩
  rw [hz] at hrun hreported
  cases r with
  | error fault =>
      -- The fault comes behind the line of progress, so no code is given.
      refine ⟨fun s w₁ hgives => ?_, fun code w' hcode => ?_⟩
      · obtain ⟨rest, w₂, hrest, -⟩ := run_bind_eq_ok hgives
        rw [hz] at hrest
        cases hrest
      · obtain ⟨rest, w₂, hshown, -⟩ := run_bind_eq_ok hcode
        rw [hrun] at hshown
        obtain ⟨u, w₃, -, hfault⟩ := run_bind_eq_ok hshown
        cases hfault
  | ok rest =>
      obtain rfl : reported = rest := hreported rest rfl
      rw [run_bind, run_bind, hrun, hz]
      refine ⟨fun s w₁ hrun => ?_, fun _ _ _ => ⟨_, w₀, rfl⟩⟩
      obtain ⟨hs, rfl⟩ := Prod.mk.inj hrun
      obtain rfl := Except.ok.inj hs
      refine ⟨progressLines reported :: summaryLines (base ++ reported), fun hlegible => ?_, ?_⟩
      · refine List.forall_mem_cons.2 ⟨isInOrder_progressLines fun r hr => ?_, ?_⟩
        · exact hlegible r (List.mem_append_right _ hr)
        · exact isInOrder_summaryLines hlegible
      · rw [← run_bind, printAll_cons, bind_assoc, bind_assoc]
        rfl

/-- If a code is given, it is that of the results, and nothing has changed since they were come
to. -/
theorem run_ok {code : Nat} (h : Concludes c x y) (hrun : x.run.run w = (.ok code, w')) :
    ∃ s w₁, y.run.run w = (.ok s, w₁) ∧ w'.stock = w₁.stock ∧ code = s.exitCode := by
  obtain ⟨s, w₁, hgives⟩ := (h w).2 code w' hrun
  obtain ⟨whats, -, hshown⟩ := (h w).1 s w₁ hgives
  rw [hshown] at hrun
  have hstock := (retains_printAll c whats).bind (fun _ => .pure s.exitCode) w₁
  rw [hrun] at hstock
  have hcode : Yields (printAll c whats >>= fun _ => pure s.exitCode) fun n => n = s.exitCode :=
    Yields.bind_any fun _ => .pure rfl
  exact ⟨s, w₁, hgives, hstock, hcode w₁ code w' hrun⟩

/-- A console that shows what is in order shows legible results, and the code is given. -/
theorem exists_run {w₁ : Workshop} (h : Concludes c x y) (hshows : c.ShowsInOrder)
    (hgives : y.run.run w = (.ok s, w₁)) : (x.run.run w).2.stock = w₁.stock ∧
      ((∀ r ∈ s, IsLegible r) → (x.run.run w).1 = .ok s.exitCode) := by
  obtain ⟨whats, hwhats, hshown⟩ := (h w).1 s w₁ hgives
  rw [hshown]
  refine ⟨(retains_printAll c whats).bind (fun _ => .pure _) w₁, fun hlegible => ?_⟩
  have hreturns : EndsIn (printAll c whats) .returns :=
    endsIn_printAll fun what hwhat => hshows what (hwhats hlegible what hwhat)
  obtain ⟨u, w₂, hprint⟩ := (EndsIn.exists_run_iff w₁).2 (hreturns w₁)
  rw [run_bind, hprint]
  rfl

end Concludes

/-! ### What a task gathers -/

/-- A task generates files without asking whether it should. -/
def Task.generates : Task → Bool
  | .everything _ assent _ => assent
  | .list => false
  | _ => true

/-- The files of many models, behind what is planned. -/
def gatherMany (c : Console) (p : Pipeline) (models groups : List String) : Work Summary := do
  let files ←
    (Pipeline.estimate (.int models.length) (.ofTexts groups) true : Except Misuse Datum)
  Run.print c (planPanel models groups files.display p.settings.output.basePath.display)
  p.generateAll (.ofTexts models) (.ofTexts groups)

/-- The results of a task, before they are shown. -/
def Task.gather (c : Console) (p : Pipeline) (t : Task) : Work Summary := do
  printAll c t.announcement
  match t with
  | .model name => p.generateFeature (.text name) (.ofTexts [Group.model.name]) false
  | .service name withRoutes => do
    let transport ← transportIf p true
    return transport ++
      (← p.generateFeature (.text name) (.ofTexts [Group.service.name]) withRoutes)
  | .feature name _ => do
    let groups := t.groups.map Group.name
    let transport ← transportIf p (groups.contains Group.service.name)
    return transport ++ (← p.generateFeature (.text name) (.ofTexts groups) false)
  | .everything models _ _ => do
    let chosen ← chosenModels c p models
    if chosen.isEmpty then return [] else gatherMany c p chosen (t.groups.map Group.name)
  | .list => return []

theorem concludes_performMany (c : Console) (p : Pipeline) (models groups : List String) :
    Concludes c (performMany c p models groups true) (gatherMany c p models groups) := by
  have hall : Reports (p.watchedAll (.ofTexts models) (.ofTexts groups))
      (p.generateAll (.ofTexts models) (.ofTexts groups)) [] fun s => [] ++ s :=
    Pipeline.reports_watchedAll p _ _ []
  refine .bind fun files => .bind fun _ => ?_
  have hshowing := Concludes.showing (c := c) hall []
  simp only [List.nil_append, bind_pure] at hshowing
  exact hshowing

/-- **A task shows what it gathers**, if it is one that generates files and has some to generate. -/
theorem concludes_perform (c : Console) (p : Pipeline) (hgenerates : t.generates = true)
    (hgroups : t.groups ≠ []) : Concludes c (t.perform c p) (t.gather c p) := by
  have hne : (t.groups.map Group.name).isEmpty = false := by simpa using hgroups
  unfold Task.perform Task.gather
  simp only [hne]
  refine .bind fun _ => ?_
  cases t with
  | model name =>
      have hreport := Concludes.report (c := c) []
        (p.generateFeature (.text name) (.ofTexts [Group.model.name]) false)
      simp only [List.nil_append, bind_pure] at hreport
      exact hreport
  | service name withRoutes => exact .bind fun transport => .report transport _
  | feature name skipped =>
      exact .bind fun transport =>
        .showing (Pipeline.reports_watchedFeature p _ _ false []) transport
  | everything models assent skipped =>
      obtain rfl : assent = true := hgenerates
      refine .bind fun chosen => ?_
      cases chosen with
      | nil => exact .nothing fun text htext => List.mem_singleton.1 htext ▸ by decide
      | cons name rest => exact concludes_performMany c p _ _
  | list => cases hgenerates

end DartScaffold.Command
