/-
**A forced run leaves nothing stale that it generates.**

If files are overwritten without asking, a planned file is written or it fails; so a run that is a
success has written each of its planned files, and each holds the text that was rendered for it,
whatever it held before, unless a file that was written later lies at the same place.  The transport
is no exception where it is a planned file.  For a single model, though, it is asked for by its
path only: if there is something at the path, the transport is not generated, forced or not, and
what was there stays.

Main results:

* `Command.writes_of_force` — what does not fail is written;
* `Command.perform_forced` — **what a forced run that is a success leaves behind**.
-/

import Mathlib
import DartScaffold.Proofs.Command.Performing

set_option relaxedAutoImplicit false
set_option autoImplicit false

namespace DartScaffold.Command

open Pipeline (Workshop Turn Passes Planned transportFile planFiles)

variable {p : Pipeline} {w w' : Workshop} {t : Task}

/-- If files are overwritten without asking, what does not fail is written. -/
theorem writes_of_force {ts : List Turn} (h : Passes p w ts w') (hforce : w.force = true)
    {turn : Turn} (hturn : turn ∈ ts) (hok : turn.result.status ≠ .failed) : turn.Writes := by
  obtain ⟨ts₁, ts₂, -, taken, hbefore, -⟩ := h.of_mem hturn
  have hskipped := taken.settles.ne_skipped (hbefore.force hforce)
  unfold Turn.Writes
  cases hstatus : turn.result.status with
  | written => rfl
  | skipped => exact absurd hstatus hskipped
  | failed => exact absurd hstatus hok

/-- **A forced run leaves nothing stale that it generates.**  If a task with services is carried out
with files overwritten without asking, and is a success, then exactly these files were executed and
written: the transport, for many models always and for a single one if nothing was at its path, and
what is planned for the models that are chosen, in order.  Afterwards the place that the path of
such a file leads to holds the text that was rendered for it, unless a later one of them leads there
as well; and no other file has changed. -/
theorem perform_forced (c : Console) (p : Pipeline) {t : Task} (hgenerates : t.generates = true)
    (hservice : "service" ∈ t.components) {w w' : Workshop} (hforce : w.force = true)
    (hrun : (t.perform c p).run.run w = (.ok 0, w')) :
    ∃ (chosen : List String) (transport : List Planned) (plans : List (List Planned))
      (ts : List Turn),
      t.targets p = .ok chosen ∧ List.Forall₂ (PlansFor p t) chosen plans ∧
      (chosen = [] ∧ transport = [] ∨
        ∃ path, Dart.Artifact.transportPath p.settings.output = .ok path ∧
          (transport = [transportFile path] ∧ (t.isMany = true ∨
              w.session.tree.pathExists (Path.ofString path.text) = .ok false) ∨
            transport = [] ∧ t.isMany = false ∧
              w.session.tree.pathExists (Path.ofString path.text) = .ok true)) ∧
      Passes p w ts w' ∧ ts.map Turn.file = transport ++ plans.flatten ∧
      (∀ turn ∈ ts, turn.Writes) ∧
      (∀ before turn after, ts = before ++ turn :: after →
        (∀ later ∈ after, w.session.tree.target later.path ≠ w.session.tree.target turn.path) →
        ∃ s, turn.rendered p = .ok (.text s) ∧
          w'.session.tree.locate turn.path = .ok (w.session.tree.target turn.path) ∧
          w'.session.tree.contentAt? (w.session.tree.target turn.path) = some (.text s)) ∧
      ∀ loc, (∀ turn ∈ ts, w.session.tree.target turn.path ≠ loc) →
        w'.session.tree.contentAt? loc = w.session.tree.contentAt? loc := by
  obtain ⟨chosen, base, rows, hcarries, hpasses, hcode⟩ := perform_cases hgenerates hrun
  have hs : (resultsOf base rows).failed = [] :=
    (Pipeline.Summary.exitCode_eq_zero_iff _).1 hcode.symm
  have hplans := (hcarries.of_failed hs).2
  have hwrites : ∀ turn ∈ turnsOf base rows, turn.Writes := fun turn hturn =>
    writes_of_force hpasses hforce hturn (hcarries.status_ne_failed hs turn hturn)
  refine ⟨chosen, base.2.map Turn.file, rows.map fun row => row.2.map Turn.file, turnsOf base rows,
    hcarries.targets, hplans, ?_, hpasses, ?_, hwrites, ?_, ?_⟩
  · cases hcarries.transport with
    | unwanted h => exact .inl ⟨h.resolve_right fun hno => hno hservice, rfl⟩
    | there path hpath hsingle h => exact .inr ⟨path, hpath, .inr ⟨rfl, hsingle, h⟩⟩
    | made path turn hpath hfile h => exact .inr ⟨path, hpath, .inl ⟨by simp [hfile], h⟩⟩
  · unfold turnsOf
    rw [List.map_append, List.map_flatten, List.map_map]
    rfl
  · intro before turn after hts hlast
    have hwritten := hwrites turn (by rw [hts]; simp)
    rw [hts] at hpasses
    exact hpasses.contentAt?_of_last hwritten fun later hlater _ => hlast later hlater
  · exact fun loc hne => hpasses.contentAt?_of_ne fun turn hturn _ => hne turn hturn

/-- Where the files of a model are planned; nowhere, if it cannot be described or planned. -/
def pathsOf (o : OutputSettings) (components : List String) : Except Fault Model → List String
  | .error _ => []
  | .ok m =>
    match planFiles o m components with
    | .error _ => []
    | .ok plan => plan.map Planned.path

theorem pathsOf_ok {o : OutputSettings} {components : List String} {m : Model}
    {plan : List Planned} (h : planFiles o m components = .ok plan) :
    pathsOf o components (.ok m) = plan.map Planned.path := by
  unfold pathsOf
  dsimp only
  rw [h]

/-- A service that was there before, without its transport, from templates of its own. -/
theorem perform_forced_service :
    let m : Backend.Manifest :=
      ⟨"manifest.json", .ofTables [], .object (Backend.asObjects [("A", [])]), []⟩
    let p : Pipeline := ⟨m.backend,
      { Settings.standard with
        templates := { Settings.standard.templates with path := .text "own" } }, none⟩
    let tree : FileTree := ⟨["work"], [(["work"], .directory), (["work", "own"], .directory),
      (["work", "own", "service.dart.j2"], .file (.text "fresh")),
      (["work", "own", "api_service.dart.j2"], .file (.text "fresh")),
      (["work", "flutter_output"], .directory),
      (["work", "flutter_output", "services"], .directory),
      (["work", "flutter_output", "services", "a_service.dart"], .file (.text "stale"))]⟩
    let w := Workshop.start (Session.start tree [] Web.unreachable) true
    ∃ w' ts, ((Task.service "A" false).perform .strict p).run.run w = (.ok 0, w') ∧
      Passes p w ts w' ∧
      (ts.map fun turn => turn.file.path) =
        ["flutter_output/services/api_service.dart", "flutter_output/services/a_service.dart"] ∧
      ∃ turn ∈ ts, ∃ s, turn.rendered p = .ok (.text s) ∧ w'.session.tree.contentAt?
        ["work", "flutter_output", "services", "a_service.dart"] = some (.text s) := by
  intro m p tree w
  have hrun := run_of_isOk (x := (Task.service "A" false).perform .strict p) (s := w) (a := 0)
    (by decide +kernel)
  obtain ⟨chosen, transport, plans, ts, htargets, hplans, htransport, hpasses, hfiles, -, hholds,
    -⟩ := perform_forced .strict p (t := .service "A" false) rfl (by decide) rfl hrun
  obtain rfl : ["A"] = chosen := Except.ok.inj htargets
  -- What is planned for the model does not depend on the workshop that it is analyzed in.
  have hpaths : pathsOf p.settings.output ["service"] ((p.analyze (.text "A") false).run.run w).1 =
      ["flutter_output/services/a_service.dart"] := by decide +kernel
  have hservice : plans.flatten.map Planned.path = ["flutter_output/services/a_service.dart"] := by
    cases hplans with
    | @cons _ plan _ rest hplan hrest =>
        cases hrest
        rcases hplan with ⟨hmany, -, -⟩ | ⟨u, model, hmodel, hplan⟩
        · cases hmany
        · have hmodel' : ((p.analyze (.text "A") false).run.run u).1 = .ok model := hmodel
          have hplan' : planFiles p.settings.output model ["service"] = .ok plan := hplan
          rw [Pipeline.analyze_eq p (.text "A") w u, hmodel', pathsOf_ok hplan'] at hpaths
          simpa using hpaths
  have htransportPath : (Dart.Artifact.transportPath p.settings.output).map Path.text =
      .ok "flutter_output/services/api_service.dart" := by rfl
  have hbase : transport.map Planned.path = ["flutter_output/services/api_service.dart"] := by
    rcases htransport with ⟨hnone, -⟩ | ⟨path, hpath, hcases⟩
    · cases hnone
    · rw [hpath] at htransportPath
      have htext : path.text = "flutter_output/services/api_service.dart" :=
        Except.ok.inj htransportPath
      rcases hcases with ⟨rfl, -⟩ | ⟨-, -, hthere⟩
      · simp [transportFile, htext]
      · rw [htext] at hthere
        have hnot : w.session.tree.pathExists
            (Path.ofString "flutter_output/services/api_service.dart") = .ok false := by
          rfl
        rw [hnot] at hthere
        cases hthere
  have hfilePaths : (ts.map fun turn => turn.file.path) =
      ["flutter_output/services/api_service.dart", "flutter_output/services/a_service.dart"] := by
    have hmapped := congrArg (List.map Planned.path) hfiles
    rw [List.map_map, List.map_append, hbase, hservice] at hmapped
    exact hmapped
  refine ⟨_, ts, hrun, hpasses, hfilePaths, ?_⟩
  obtain ⟨first, rest, rfl, -, hrest⟩ := List.map_eq_cons_iff.1 hfilePaths
  obtain ⟨second, last, rfl, hsecond, hlast⟩ := List.map_eq_cons_iff.1 hrest
  obtain rfl := List.map_eq_nil_iff.1 hlast
  obtain ⟨s, hrendered, -, hcontent⟩ := hholds [first] second [] rfl (by simp)
  refine ⟨second, by simp, s, hrendered, ?_⟩
  have htarget : w.session.tree.target second.path =
      ["work", "flutter_output", "services", "a_service.dart"] := by
    unfold Turn.path
    rw [hsecond]
    decide +kernel
  rw [← htarget]
  exact hcontent

end DartScaffold.Command
