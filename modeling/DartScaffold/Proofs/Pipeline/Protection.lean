/-
**Existing files are left alone.**

A file that is there already is written only if files are overwritten without asking, or if whoever
is asked agrees.  Executing a planned file changes that file at most, and only if the result says
so.  Without leave to overwrite a run changes no file that was there before it, and writes no file
twice, with one exception, which is told exactly: whether a file is there is found out before the
directories on the way to it are made, and a path with a double dot behind a directory that is
missing leads nowhere then, but leads to a file that has been there all the time once the directory
is made.

Main results:

* `Pipeline.Guards.isNew` — what a run writes at a steady path was not there at the beginning;
* `Pipeline.Guards.apart` — what is written twice is written along different paths;
* `Pipeline.run_protects` — **what executing a planned file changes, and what a run without leave
  to overwrite leaves alone**.
-/

import Mathlib
import DartScaffold.Proofs.Pipeline.Turns

set_option relaxedAutoImplicit false
set_option autoImplicit false

namespace DartScaffold.Pipeline

variable {p : Pipeline} {w w' : Workshop} {t : Turn} {ts : List Turn}

/-! ### Runs without leave to overwrite -/

/-- A run without leave to overwrite begins here, and has come to some stock. -/
structure Guards (p : Pipeline) (start : FileTree) (k : Stock) : Prop where
  grows : start.Grows k.tree
  refuses : k.Refuses p
  wellFormed : k.tree.WellFormed

theorem Guards.turn {start : FileTree} (taken : t.Taken p) (h : Guards p start t.before.stock) :
    Guards p start t.after.stock :=
  ⟨h.grows.trans taken.settles.grows, taken.refuses h.refuses,
    taken.settles.wellFormed h.wellFormed⟩

theorem Guards.passes {start : FileTree} (h : Guards p start w.stock) (hp : Passes p w ts w') :
    Guards p start w'.stock :=
  hp.induction (P := Guards p start) (fun _ taken hw => hw.turn taken) h

/-- What is written at a steady path was not there at the beginning. -/
theorem Guards.isNew {start : FileTree} (h : Guards p start t.before.stock) (taken : t.Taken p)
    (hwrites : t.Writes) (hsteady : start.Steady t.path) :
    t.before.session.tree.node? (start.target t.path) = none := by
  have hnew := (hwrites ▸ taken.settles).isNew h.refuses h.wellFormed (hsteady.grows h.grows)
  rwa [h.grows.target] at hnew

/-- What each turn does to the ones after it. -/
theorem Passes.pairwise {P : Stock → Prop} {R : Turn → Turn → Prop}
    (hkeep : ∀ t : Turn, t.Taken p → P t.before.stock → P t.after.stock)
    (hR : ∀ (t t' : Turn) (ts : List Turn), t.Taken p → P t.before.stock →
      Passes p t.after ts t'.before → t'.Taken p → R t t')
    (h : Passes p w ts w') (hw : P w.stock) : ts.Pairwise R := by
  induction h with
  | done _ => exact .nil
  | turn heq taken rest ih =>
      rw [← heq] at hw
      refine .cons (fun t' ht' => ?_) (ih (hkeep _ taken hw))
      obtain ⟨ts₁, ts₂, -, taken', hbetween, -⟩ := rest.of_mem ht'
      exact hR _ t' ts₁ taken hw hbetween taken'

/-- A file that is written twice is written along a path that is not steady, and not along the same
one. -/
theorem Guards.apart {start : FileTree} {t t' : Turn} (h : Guards p start t.before.stock)
    (taken : t.Taken p) (hwrites : t.Writes) (hp : Passes p t.after ts t'.before)
    (taken' : t'.Taken p) (hwrites' : t'.Writes) :
    t.path ≠ t'.path ∧ (start.target t.path = start.target t'.path → ¬ start.Steady t'.path) := by
  have hnow := h.turn taken
  have hlater := hnow.passes hp
  have hthere : t'.before.session.tree.pathExists t.path = .ok true :=
    hp.grows.pathExists (taken.settles.pathExists (by rw [hwrites]; decide))
  refine ⟨fun heq => ?_, fun heq hsteady => ?_⟩
  · have hnone := (hwrites' ▸ taken'.settles).pathExists_of_refuses hlater.refuses
    rw [heq] at hthere
    cases hthere.symm.trans hnone
  · obtain ⟨node, hnode⟩ := FileTree.pathExists_eq_true_iff.1 hthere
    have hsome := (FileTree.status_eq_ok_iff.1 hnode).2
    have hnew := hlater.isNew taken' hwrites' hsteady
    rw [← heq, ← hlater.grows.target] at hnew
    cases hnew.symm.trans hsome

/-- What a turn results in has the path of its file. -/
theorem Turn.Taken.path_result (taken : t.Taken p) : t.result.path = t.file.path :=
  congrArg Prod.fst taken.heading

/-- A file that was there is still the same, unless a path that is not steady leads to it. -/
theorem Passes.contentAt?_of_guards (h : Passes p w ts w') (hw : Guards p w.session.tree w.stock)
    {loc : FileTree.Location} {content : FileTree.Content}
    (hcontent : w.session.tree.contentAt? loc = some content) :
    w'.session.tree.contentAt? loc = some content ∨
      ∃ t ∈ ts, t.Taken p ∧ t.Writes ∧ w.session.tree.target t.path = loc ∧
        ¬ w.session.tree.Steady t.path := by
  by_cases hwritten : ∃ t ∈ ts, t.Writes ∧ w.session.tree.target t.path = loc
  · obtain ⟨t, ht, hwrites, rfl⟩ := hwritten
    obtain ⟨ts₁, ts₂, rfl, taken, hbefore, -⟩ := h.of_mem ht
    refine .inr ⟨t, ht, taken, hwrites, rfl, fun hsteady => ?_⟩
    have hnew := (hw.passes hbefore).isNew taken hwrites hsteady
    obtain ⟨content', hfile⟩ := hbefore.grows.file _ content
      (FileTree.contentAt?_eq_some_iff.1 hcontent)
    cases hnew.symm.trans hfile
  · refine .inl ((h.contentAt?_of_ne fun t ht hwrites heq => ?_).trans hcontent)
    exact hwritten ⟨t, ht, hwrites, heq⟩

/-! ### Results -/

theorem succeeded_map_result (ts : List Turn) :
    Summary.succeeded (ts.map Turn.result) =
      (ts.filter fun t => t.result.status == .written).map Turn.result := by
  unfold Summary.succeeded Summary.withStatus
  rw [List.filter_map]
  rfl

/-- **Existing files are left alone.**  Executing a planned file always has a result.  It changes no
file unless the result is that it was written, and then exactly the file at its path, to the text
that was rendered.  A run that may not overwrite, neither beforehand nor by any answer, has results,
too; a file that was there before holds what it held, no path is written twice, and no file is,
unless a double dot of a path that leads to it leaves a directory that was not there. -/
theorem run_protects (p : Pipeline) :
    (∀ (f : Planned) (w : Workshop), ∃ r w', (p.execute f).run.run w = (.ok r, w') ∧
      (r.status ≠ .written → w'.session.tree.contentAt? = w.session.tree.contentAt?) ∧
      (r.status = .written → ∃ s,
        ((p.render f.source).run.run w).1 = .ok (.text s) ∧
        w'.session.tree.locate (Path.ofString f.path) =
          .ok (w.session.tree.target (Path.ofString f.path)) ∧
        w'.session.tree.contentAt? = Function.update w.session.tree.contentAt?
          (w.session.tree.target (Path.ofString f.path)) (some (.text s)))) ∧
    ∀ (plan : List Planned) (w : Workshop), w.force = false →
      (p.question = none ∨ true ∉ w.session.answers) → w.session.tree.WellFormed →
      ∃ s w', (p.run plan).run.run w = (.ok s, w') ∧
        (∀ loc content, w.session.tree.contentAt? loc = some content →
          w'.session.tree.contentAt? loc = some content ∨
            ∃ r ∈ s.succeeded, w.session.tree.target (Path.ofString r.path) = loc ∧
              ¬ w.session.tree.Steady (Path.ofString r.path)) ∧
        (s.succeeded.map FileResult.path).Nodup ∧
        s.succeeded.Pairwise fun r r' =>
          w.session.tree.target (Path.ofString r.path) =
              w.session.tree.target (Path.ofString r'.path) →
            ¬ w.session.tree.Steady (Path.ofString r'.path) := by
  refine ⟨fun f w => ?_, fun plan w hforce hanswers hwf => ?_⟩
  · obtain ⟨r, w', hrun, hsettles, -⟩ := execute_cases p f w
    refine ⟨r, w', hrun, hsettles.contentAt?_of_ne, fun hwritten => ?_⟩
    exact (hwritten ▸ hsettles).contentAt?_written
  · obtain ⟨s, w', hrun⟩ := (EndsIn.exists_run_iff w).2 (endsIn_run p plan w)
    obtain ⟨ts, hpasses, -, rfl⟩ := takes_run p plan w s w' hrun
    have hguards : Guards p w.session.tree w.stock := ⟨.refl _, ⟨hforce, hanswers⟩, hwf⟩
    have hpairs : ts.Pairwise fun t t' => t.Writes → t'.Writes →
        t.result.path ≠ t'.result.path ∧
          (w.session.tree.target (Path.ofString t.result.path) =
              w.session.tree.target (Path.ofString t'.result.path) →
            ¬ w.session.tree.Steady (Path.ofString t'.result.path)) := by
      refine hpasses.pairwise (P := Guards p w.session.tree) (fun _ taken hw => hw.turn taken)
        (fun t t' ts taken hw hp taken' hwrites hwrites' => ?_) hguards
      have hapart := hw.apart taken hwrites hp taken' hwrites'
      rw [taken.path_result, taken'.path_result]
      exact ⟨fun heq => hapart.1 (congrArg Path.ofString heq), hapart.2⟩
    have hwritten := hpairs.filter fun t => t.result.status == .written
    have hmem : ∀ t ∈ ts.filter (fun t => t.result.status == .written), t.Writes :=
      fun t ht => beq_iff_eq.1 (List.mem_filter.1 ht).2
    refine ⟨ts.map Turn.result, w', hrun, fun loc content hcontent => ?_, ?_, ?_⟩
    · refine (hpasses.contentAt?_of_guards hguards hcontent).imp_right ?_
      rintro ⟨t, ht, taken, hwrites, htarget, hunsteady⟩
      refine ⟨t.result, ?_, ?_, ?_⟩
      · rw [succeeded_map_result]
        exact List.mem_map_of_mem (List.mem_filter.2 ⟨ht, beq_iff_eq.2 hwrites⟩)
      · rw [taken.path_result]
        exact htarget
      · rw [taken.path_result]
        exact hunsteady
    · rw [succeeded_map_result, List.map_map, List.Nodup, List.pairwise_map]
      exact hwritten.imp_of_mem fun ht ht' h => (h (hmem _ ht) (hmem _ ht')).1
    · rw [succeeded_map_result, List.pairwise_map]
      exact hwritten.imp_of_mem fun ht ht' h => (h (hmem _ ht) (hmem _ ht')).2

/-- Two planned files, of which one is there already. -/
theorem run_protects_existing :
    let m : Backend.Manifest := ⟨"manifest.json", .ofTables [], .object [], []⟩
    let p : Pipeline := ⟨m.backend, .standard, none⟩
    let tree : FileTree := ⟨["work"], [(["work"], .directory), (["work", "lib"], .directory),
      (["work", "lib", "a.dart"], .file (.text "mine"))]⟩
    let w := Workshop.start (Session.start tree [] Web.unreachable) false
    ∃ s w', (p.run [⟨"model", "lib/a.dart", .given (.text "new"), "A"⟩,
        ⟨"model", "lib/b.dart", .given (.text "new"), "B"⟩]).run.run w = (.ok s, w') ∧
      w'.session.tree.contentAt? ["work", "lib", "a.dart"] = some (.text "mine") ∧
      (s.succeeded.map FileResult.path).Nodup := by
  intro m p tree w
  have hwf : w.session.tree.WellFormed := FileTree.wellFormed_of_nodes (by decide)
  obtain ⟨s, w', hrun, hsame, hnodup, -⟩ := (run_protects p).2
    [⟨"model", "lib/a.dart", .given (.text "new"), "A"⟩,
      ⟨"model", "lib/b.dart", .given (.text "new"), "B"⟩] w rfl (.inl rfl) hwf
  have hkept := hsame ["work", "lib", "a.dart"] (.text "mine") (by decide)
  refine ⟨s, w', hrun, hkept.resolve_right ?_, hnodup⟩
  rintro ⟨r, hr, -, hunsteady⟩
  have hheading := yields_run_heading p _ w s w' hrun
  have hpath : r.path ∈ ["lib/a.dart", "lib/b.dart"] := by
    have hmem := List.mem_map_of_mem (f := FileResult.heading) (List.mem_of_mem_filter hr)
    rw [hheading] at hmem
    have hfirst := List.mem_map_of_mem (f := Prod.fst) hmem
    exact hfirst
  -- Neither path has a double dot.
  refine hunsteady (FileTree.steady_of_not_mem ?_)
  simp only [List.mem_cons, List.not_mem_nil, or_false] at hpath
  rcases hpath with hpath | hpath
  · rw [hpath]
    decide +kernel
  · rw [hpath]
    decide +kernel

end DartScaffold.Pipeline
