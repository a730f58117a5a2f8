/-
**Targets that fail.**

A target whose analysis ends in a fault that is recorded leaves nothing behind but its record and
what is logged.  Nothing else depends on the log, so the other targets are generated as if it had
not been asked for: the same files are planned, written and skipped, and what has been made for
later ones is the same.

Main definitions:

* `Pipeline.Summary.files`, `Pipeline.Summary.unanalyzed` — the results of files, and of targets
  that were not analyzed;
* `Pipeline.isRecorded` — a target whose analysis fails and is recorded.

Main results:

* `Pipeline.run_recorded` — what a target that fails leaves behind;
* `Pipeline.yields_generateUnlessExcluded` — another one is not recorded as failed;
* `Pipeline.run_forTargets` — the results of several targets;
* `Pipeline.generateUnlessExcluded_congr` — what is generated for a target depends on its own entry
  only;
* `Pipeline.generateAll_targets` — **a run over targets** returns unless one breaks it off, records
  those that fail, and generates the others as if it were without these.
-/

import Mathlib
import DartScaffold.Proofs.Pipeline.Planning
import DartScaffold.Proofs.Pipeline.Unlogged

set_option relaxedAutoImplicit false
set_option autoImplicit false

namespace DartScaffold.Pipeline

/-! ### Results -/

/-- The results of files. -/
def Summary.files (s : Summary) : Summary := s.filter fun r => r.component != "analysis"

/-- The results of targets that were not analyzed. -/
def Summary.unanalyzed (s : Summary) : Summary := s.filter fun r => r.component == "analysis"

theorem Summary.files_append (s t : Summary) : Summary.files (s ++ t) = s.files ++ t.files :=
  List.filter_append ..

theorem Summary.unanalyzed_append (s t : Summary) :
    Summary.unanalyzed (s ++ t) = s.unanalyzed ++ t.unanalyzed :=
  List.filter_append ..

/-- Results of files only. -/
theorem Summary.eq_of_files {s : Summary} (h : ∀ r ∈ s, r.component ≠ "analysis") :
    s.files = s ∧ s.unanalyzed = [] := by
  constructor
  · exact List.filter_eq_self.2 fun r hr => by simpa using h r hr
  · exact List.filter_eq_nil_iff.2 fun r hr => by simpa using h r hr

variable {p : Pipeline} {m : Backend.Manifest}
  {entries : List (String × List (String × Datum))}

/-- Whether the analysis of a target fails and is recorded. -/
def isRecorded (p : Pipeline) (m : Backend.Manifest)
    (entries : List (String × List (String × Datum))) (target : String) : Bool :=
  !p.isLeftOut target &&
    Backend.targetEnding p.settings.analysis m.schema entries target == .recorded

/-! ### Files -/

theorem yields_execute (f : Planned) (h : f.component ≠ "analysis") :
    Yields (p.execute f) fun r => r.component ≠ "analysis" := by
  unfold execute
  refine Yields.bind_any fun result => ?_
  split
  · exact Yields.pure h
  · exact Yields.bind_any fun _ => Yields.pure h

theorem yields_run {plan : List Planned} (h : ∀ f ∈ plan, f.component ≠ "analysis") :
    Yields (p.run plan) fun s => ∀ r ∈ s, r.component ≠ "analysis" :=
  Yields.mapM fun f hf => yields_execute f (h f hf)

theorem yields_planModel (h : p.settings.Usable) (model : Model) (names : Datum) :
    Yields (p.planModel model names) fun plan => ∀ f ∈ plan, f.component ≠ "analysis" := by
  refine yields_planModel_forall (fun g plan hplan => ?_) names
  obtain ⟨plan', hplan', hfiles⟩ := planGroup_ok h model g
  obtain rfl := Except.ok.inj (hplan'.symm.trans hplan)
  exact hfiles

theorem yields_base (h : p.settings.Usable) (components : List String) :
    Yields (p.base components) fun s => ∀ r ∈ s, r.component ≠ "analysis" := by
  obtain ⟨plan, hplan, hfiles⟩ := planTransport_ok h
  unfold base
  by_cases hservice : (components.map Datum.text).any Group.service.isNamed = true
  · rw [if_pos hservice]
    refine Yields.bind (Yields.bind_any fun _ => ?_) fun plan hplan => yields_run hplan
    rw [hplan]
    exact Yields.pure hfiles
  · rw [if_neg hservice]
    exact Yields.pure (by simp)

/-! ### Runs that return -/

/-- A run that returns consists of the base and the targets. -/
theorem run_generateAll {targets components : List String} {w w₁ w' : Workshop} {base : Summary}
    {rows : List Summary} (hbase : (p.base components).run.run w = (.ok base, w₁))
    (hrows : (p.forTargets components targets).run.run w₁ = (.ok rows, w')) :
    (p.generateAll (.list (targets.map .text)) (.list (components.map .text))).run.run w =
      (.ok (base ++ rows.flatten), w') := by
  rw [generateAll_texts, run_bind, hbase]
  show (p.forTargets components targets >>= _).run.run w₁ = _
  rw [run_bind, hrows]
  rfl

/-! ### One target -/

section Targets

variable (h : p.settings.Usable) (hbackend : p.backend = m.backend)
  (hmodels : m.models = .object (Backend.asObjects entries))
include h hbackend hmodels

/-- A target that is not recorded as failed gives results of files only. -/
theorem yields_generateUnlessExcluded (components : List String) {target : String}
    (hnot : p.isRecorded m entries target = false) :
    Yields (p.generateUnlessExcluded (.list (components.map .text)) (.text target)) fun s =>
      ∀ r ∈ s, r.component ≠ "analysis" := by
  have hanalyze := endsIn_analyze hbackend hmodels target
  rw [generateUnlessExcluded_eq h]
  unfold isRecorded at hnot
  cases hleft : p.isLeftOut target with
  | true => exact Yields.bind_any fun _ => Yields.pure (List.forall_mem_nil _)
  | false =>
      rw [hleft] at hnot
      show Yields (p.generateFeature (.text target) _ false) _
      unfold generateFeature
      refine Yields.bind_attempt hanalyze fun r hr => ?_
      cases r with
      | ok model =>
          exact Yields.bind (yields_planModel h model _) fun plan hplan => yields_run hplan
      | error fault =>
          have hf : ¬ isAnalysisFault fault = true := by
            intro hf
            rw [← hr, (Ending.of_eq_recorded_iff _).2 ⟨fault, rfl, hf⟩] at hnot
            exact absurd hnot (by decide)
          show Yields (if _ then _ else throw fault) _
          rw [if_neg hf]
          exact Yields.throw fault

/-- A target that fails leaves behind its record, and what is logged. -/
theorem run_recorded (groups : Datum) {target : String}
    (hrecorded : p.isRecorded m entries target = true) (w : Workshop) :
    ∃ reason w', (p.generateUnlessExcluded groups (.text target)).run.run w =
        (.ok [⟨target, .failed, "analysis", target, reason⟩], w') ∧
      w'.unlogged = w.unlogged := by
  unfold isRecorded at hrecorded
  obtain ⟨hleft, hrecorded⟩ := Bool.and_eq_true_iff.1 hrecorded
  have hends := endsIn_analyze hbackend hmodels target w
  have hsame := (logsOnly_analyze p (.text target)).same w
  rw [generateUnlessExcluded_eq h, if_neg (by simpa using hleft)]
  unfold generateFeature
  rw [run_bind_attempt]
  rcases hrun : (p.analyze (.text target) false).run.run w with ⟨r, w₁⟩
  rw [hrun] at hends hsame
  obtain ⟨fault, rfl, hfault⟩ := (Ending.of_eq_recorded_iff r).1
    (hends.trans (by simpa using hrecorded))
  show ∃ reason w', ((if isAnalysisFault fault then _ else _ : Work Summary).run.run w₁) = _ ∧ _
  rw [if_pos hfault, run_bind]
  exact ⟨fault.message, _, rfl, ((logsOnly_ofRun (logsOnly_record _ _)).same w₁).trans hsame⟩

/-! ### Several targets -/

/-- The targets that fail leave behind their records only: from workshops that differ in their logs
only, the others give the same without them. -/
theorem run_forTargets (components : List String) {targets : List String}
    (hnone : ∀ t ∈ targets, p.breaks m entries t = false) {w v : Workshop}
    (hwv : w.unlogged = v.unlogged) :
    ∃ rows w' rows' v',
      (p.forTargets components targets).run.run w = (.ok rows, w') ∧
      (p.forTargets components (targets.filter fun t => !p.isRecorded m entries t)).run.run v =
        (.ok rows', v') ∧
      w'.unlogged = v'.unlogged ∧ Summary.files rows.flatten = rows'.flatten ∧
      (Summary.unanalyzed rows.flatten).map (fun r => (r.path, r.status, r.model)) =
        (targets.filter (p.isRecorded m entries)).map fun t => (t, .failed, t) := by
  induction targets generalizing w v with
  | nil => exact ⟨[], w, [], v, rfl, rfl, hwv, rfl, rfl⟩
  | cons t targets ih =>
      have ih := @ih fun u hu => hnone u (List.mem_cons_of_mem _ hu)
      cases hrecorded : p.isRecorded m entries t with
      | true =>
          -- Only the run over all targets comes to this one, which leaves its record behind.
          obtain ⟨reason, w₁, hfirst, hsame⟩ := run_recorded h hbackend hmodels
            (.list (components.map .text)) hrecorded w
          obtain ⟨rows, w', rows', v', hrows, hrows', hstate, hfiles, hfailed⟩ :=
            ih (hsame.trans hwv)
          refine ⟨_ :: rows, w', rows', v', run_mapM_cons hfirst hrows, ?_, hstate, ?_, ?_⟩
          · rw [List.filter_cons_of_neg (by simp [hrecorded])]
            exact hrows'
          · rw [List.flatten_cons, Summary.files_append, hfiles]
            rfl
          · rw [List.flatten_cons, Summary.unanalyzed_append, List.map_append, hfailed,
              List.filter_cons_of_pos hrecorded]
            rfl
      | false =>
          -- Both runs generate this target, from workshops that differ in their logs only.
          have hends := endsIn_generateUnlessExcluded h hbackend hmodels components t
          rw [if_neg (by simp [hnone t (List.mem_cons_self ..)])] at hends
          obtain ⟨s, hs⟩ := (Ending.of_eq_returns_iff _).1 (hends w)
          obtain ⟨hresult, hsame⟩ := blind_generateUnlessExcluded p
            (.list (components.map .text)) (.text t) w v hwv
          have hfirst := run_of_fst hs
          have hfirst' := run_of_fst (hresult.symm.trans hs)
          obtain ⟨rows, w', rows', v', hrows, hrows', hstate, hfiles, hfailed⟩ := ih hsame
          obtain ⟨hs, hempty⟩ := Summary.eq_of_files
            (yields_generateUnlessExcluded h hbackend hmodels components hrecorded w s _ hfirst)
          refine ⟨s :: rows, w', s :: rows', v', run_mapM_cons hfirst hrows, ?_, hstate, ?_, ?_⟩
          · rw [List.filter_cons_of_pos (by simp [hrecorded])]
            exact run_mapM_cons hfirst' hrows'
          · rw [List.flatten_cons, List.flatten_cons, Summary.files_append, hs, hfiles]
          · rw [List.flatten_cons, Summary.unanalyzed_append, hempty, List.nil_append, hfailed,
              List.filter_cons_of_neg (by simp [hrecorded])]

/-! ### Runs -/

/-- A run returns exactly if the analysis of no target that is not left out is broken off. -/
theorem exists_run_generateAll_iff (targets components : List String) (w : Workshop) :
    (∃ summary w', (p.generateAll (.list (targets.map .text))
        (.list (components.map .text))).run.run w = (.ok summary, w')) ↔
      ∀ t ∈ targets, isExcluded p.settings (.text t) = .ok false →
        Backend.targetEnding p.settings.analysis m.schema entries t ≠ .escapes := by
  rw [exists_run_generateAll_iff_any h hbackend hmodels, List.any_eq_false]
  refine forall₂_congr fun t _ => ?_
  rw [isExcluded_eq h]
  unfold breaks
  cases p.isLeftOut t <;> simp

/-- A run that returns records the targets that fail, and gives the same as without them. -/
theorem run_generateAll_filter {targets components : List String} {w w' : Workshop}
    {summary : Summary}
    (hrun : (p.generateAll (.list (targets.map .text)) (.list (components.map .text))).run.run w =
      (.ok summary, w')) :
    (summary.unanalyzed.map fun r => (r.path, r.status, r.model)) =
      ((targets.filter (p.isRecorded m entries)).map fun t => (t, .failed, t)) ∧
    ∃ w'', (p.generateAll (.list ((targets.filter fun t => !p.isRecorded m entries t).map .text))
        (.list (components.map .text))).run.run w = (.ok summary.files, w'') ∧
      w'.unlogged = w''.unlogged := by
  have hnone : ∀ t ∈ targets, p.breaks m entries t = false := by
    intro t ht
    have hany := (exists_run_generateAll_iff_any h hbackend hmodels targets components w).1
      ⟨summary, w', hrun⟩
    simpa using List.any_eq_false.1 hany t ht
  obtain ⟨base, w₁, hbase⟩ := (EndsIn.exists_run_iff w).2 (endsIn_base h components w)
  obtain ⟨rows, w₂, rows', w₂', hrows, hrows', hstate, hfiles, hfailed⟩ :=
    run_forTargets h hbackend hmodels components hnone (w := w₁) rfl
  obtain ⟨hbaseFiles, hempty⟩ := Summary.eq_of_files (yields_base h components w base w₁ hbase)
  rw [run_generateAll hbase hrows] at hrun
  obtain ⟨hsummary, rfl⟩ := Prod.mk.inj hrun
  obtain rfl := Except.ok.inj hsummary
  refine ⟨?_, w₂', ?_, hstate⟩
  · rw [Summary.unanalyzed_append, hempty, List.nil_append, hfailed]
  · rw [run_generateAll hbase hrows', Summary.files_append, hbaseFiles, hfiles]

end Targets

/-! ### Other entries -/

/-- What is generated for a target depends on its own entry only. -/
theorem generateUnlessExcluded_congr (hbackend : p.backend = m.backend)
    (hmodels : m.models = .object (Backend.asObjects entries)) {m' : Backend.Manifest}
    {entries' : List (String × List (String × Datum))}
    (hmodels' : m'.models = .object (Backend.asObjects entries')) (hschema : m'.schema = m.schema)
    (hsource : m'.source = m.source) (groups : Datum) {target : String}
    (hentry : Backend.entryOf? entries' target = Backend.entryOf? entries target) :
    { p with backend := m'.backend }.generateUnlessExcluded groups (.text target) =
      p.generateUnlessExcluded groups (.text target) := by
  have hmodel : m'.model (.text target) = m.model (.text target) := by
    rw [Backend.model_eq hmodels, Backend.model_eq hmodels', hentry, hsource]
  have hanalyze : { p with backend := m'.backend }.analyze (.text target) false =
      p.analyze (.text target) false := by
    unfold analyze
    rw [modelOf_text hbackend, hbackend, m.backend_schema, ← hmodel, ← hschema]
    rfl
  unfold generateUnlessExcluded generateFeature
  rw [hanalyze]
  rfl

/-- What is generated for several targets depends on their own entries only. -/
theorem forTargets_congr (hbackend : p.backend = m.backend)
    (hmodels : m.models = .object (Backend.asObjects entries)) {m' : Backend.Manifest}
    {entries' : List (String × List (String × Datum))}
    (hmodels' : m'.models = .object (Backend.asObjects entries')) (hschema : m'.schema = m.schema)
    (hsource : m'.source = m.source) (components : List String) {targets : List String}
    (hentries : ∀ t ∈ targets, Backend.entryOf? entries' t = Backend.entryOf? entries t) :
    { p with backend := m'.backend }.forTargets components targets =
      p.forTargets components targets := by
  exact mapM_congr_left fun t ht =>
    generateUnlessExcluded_congr hbackend hmodels hmodels' hschema hsource _ (hentries t ht)

/-! ### Runs and their targets -/

/-- **A run over targets** of a manifest whose entries are objects.  It returns exactly if the
analysis of each target that is not left out either fits or ends in a fault that is recorded.  Then
every target of the second kind is recorded as failed, once and in order, and the results of files
are those of a run without these targets, which leaves the same behind but for the log.  Of the
entries only those of the targets matter. -/
theorem generateAll_targets (h : p.settings.Usable) (hbackend : p.backend = m.backend)
    (hmodels : m.models = .object (Backend.asObjects entries)) (targets components : List String)
    (w : Workshop) :
    ((∃ summary w', (p.generateAll (.list (targets.map .text))
        (.list (components.map .text))).run.run w = (.ok summary, w')) ↔
      ∀ t ∈ targets, isExcluded p.settings (.text t) = .ok false →
        Backend.targetEnding p.settings.analysis m.schema entries t ≠ .escapes) ∧
    (∀ summary w', (p.generateAll (.list (targets.map .text))
        (.list (components.map .text))).run.run w = (.ok summary, w') →
      (summary.unanalyzed.map fun r => (r.path, r.status, r.model)) =
        ((targets.filter (p.isRecorded m entries)).map fun t => (t, .failed, t)) ∧
      ∃ w'', (p.generateAll (.list ((targets.filter fun t => !p.isRecorded m entries t).map .text))
          (.list (components.map .text))).run.run w = (.ok summary.files, w'') ∧
        w'.unlogged = w''.unlogged) ∧
    (∀ (m' : Backend.Manifest) (entries' : List (String × List (String × Datum))),
      m'.models = .object (Backend.asObjects entries') → m'.schema = m.schema →
      m'.source = m.source →
      (∀ t ∈ targets, Backend.entryOf? entries' t = Backend.entryOf? entries t) →
      { p with backend := m'.backend }.generateAll (.list (targets.map .text))
          (.list (components.map .text)) =
        p.generateAll (.list (targets.map .text)) (.list (components.map .text))) := by
  refine ⟨exists_run_generateAll_iff h hbackend hmodels targets components w, ?_, ?_⟩
  · exact fun summary w' hrun => run_generateAll_filter h hbackend hmodels hrun
  · intro m' entries' hmodels' hschema hsource hentries
    rw [generateAll_texts, generateAll_texts,
      forTargets_congr hbackend hmodels hmodels' hschema hsource components hentries]
    rfl

/-- Entries of which the first one breaks a run off and the last one is recorded. -/
def mixedEntries : List (String × List (String × Datum)) :=
  [("A", [("fillable", .int 5)]), ("B", []), ("C", [("casts", .text "none")])]

/-- A manifest with these entries, and without tables. -/
def mixedManifest : Backend.Manifest :=
  ⟨"manifest.json", .ofTables [], .object (Backend.asObjects mixedEntries), []⟩

theorem generateAll_targets_mixed :
    let p : Pipeline := ⟨mixedManifest.backend, .standard, none⟩
    let w := Workshop.start (Session.start .empty [] Web.unreachable) false
    let run := fun targets => (p.generateAll (.list targets) (.list [.text "model"])).run.run w
    p.settings.Usable ∧
      (¬ ∃ summary w', run [.text "A", .text "B"] = (.ok summary, w')) ∧
      ∃ summary w', run [.text "C", .text "B"] = (.ok summary, w') ∧
        (summary.unanalyzed.map fun r => (r.path, r.status, r.model)) = [("C", .failed, "C")] := by
  intro p w run
  have husable : p.settings.Usable := Settings.usable_standard
  obtain ⟨hfirst, -, -⟩ := @generateAll_targets p mixedManifest mixedEntries husable
    rfl rfl ["A", "B"] ["model"] w
  obtain ⟨hlast, hfailed, -⟩ := @generateAll_targets p mixedManifest mixedEntries husable
    rfl rfl ["C", "B"] ["model"] w
  refine ⟨husable, ?_, ?_⟩
  · intro hreturns
    exact hfirst.1 hreturns "A" (by decide) (by decide +kernel) (by decide +kernel)
  · obtain ⟨summary, w', hrun⟩ := hlast.2 (by decide +kernel)
    refine ⟨summary, w', hrun, ?_⟩
    rw [(hfailed summary w' hrun).1]
    decide +kernel

end DartScaffold.Pipeline
