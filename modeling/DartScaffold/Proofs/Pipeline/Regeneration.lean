/-
**A run that is repeated skips everything.**

A run without leave to overwrite that ends without a failure leaves a file at each path that was
planned.  Repeated on what it left behind, by the same pipeline or by a new one, it plans the same
files in the same order, renders each of them to the same text, finds each of them there, and leaves
the files as they are.  There are two exceptions, and both are told exactly.  A file that is written
into the directory of templates along a path that could not be followed before may have replaced a
template; and a new pipeline may find a directory of templates that only the run has led to.

Main definitions:

* `Pipeline.AllSettled` — results without a failure, and without the first exception.

Main results:

* `Pipeline.yields_planBase_isDart`, `Pipeline.yields_planModel_isDart` — planned files are of Dart;
* `Pipeline.repeats_generateFeature`, `Pipeline.repeats_generateAll` — runs for one model and for
  several can be repeated;
* `Pipeline.generateAll_again` — **what a repeated run comes to**.
-/

import Mathlib
import DartScaffold.Proofs.Generation.PlannedPaths
import DartScaffold.Proofs.Pipeline.Retracing
import DartScaffold.Proofs.Pipeline.Unlogged

set_option relaxedAutoImplicit false
set_option autoImplicit false

namespace DartScaffold

open Dart (Artifact Folder)

namespace Pipeline

variable {p : Pipeline} {start : FileTree} {α β : Type}

/-! ### Planned files are of Dart -/

theorem isDart_of_path {o : OutputSettings} {c : Dart.Component} {name : String} {path : Path}
    (h : c.path o name = .ok path) {f : Planned} (hf : f.path = path.text) : f.IsDart := by
  have hending : '/' ∉ c.ending.toList := by cases c <;> decide
  obtain ⟨hread, hlast⟩ := Dart.filePath_eq_ok hending h
  refine ⟨Dart.fileName name c.ending, ?_, ?_⟩
  · rw [hf, Path.ofString_text hread, hlast]
  · unfold Dart.fileName
    rw [String.toList_append]
    exact List.suffix_append ..

theorem isDart_of_planFile {o : OutputSettings} {m : Model} {a : Artifact} {f : Planned}
    (h : planFile o m a = .ok f) : f.IsDart := by
  obtain ⟨path, hpath, rfl⟩ := planFile_eq_ok h
  exact isDart_of_path hpath rfl

theorem isDart_of_planGroup {o : OutputSettings} {m : Model} {g : Group} {plan : List Planned}
    (h : planGroup o m g = .ok plan) : ∀ f ∈ plan, f.IsDart := by
  intro f hf
  obtain ⟨a, -, hfile⟩ := exists_of_mem_mapM h hf
  exact isDart_of_planFile hfile

theorem yields_planBase_isDart (p : Pipeline) :
    Yields p.planBase fun plan => ∀ f ∈ plan, f.IsDart := by
  intro w plan w' hrun
  obtain ⟨path, hpath, rfl⟩ := planTransport_eq_ok (yields_planBase p w plan w' hrun)
  intro f hf
  rw [List.mem_singleton.1 hf]
  exact isDart_of_path hpath rfl

theorem yields_planModel_isDart (p : Pipeline) (m : Model) (names : Datum) :
    Yields (p.planModel m names) fun plan => ∀ f ∈ plan, f.IsDart :=
  yields_planModel_forall (fun _ _ h => isDart_of_planGroup h) names

/-! ### Plans can be repeated -/

theorem Repeats.generator_bind {name : String} {x : Work α} {Good : α → Prop}
    (hx : Repeats p start x x Good id) :
    Repeats p start (p.generator name >>= fun _ => x) (p.generator name >>= fun _ => x) Good
      id := by
  intro w a w₂ hrun hsound hgood
  obtain ⟨g, w₁, hgenerator, hrest⟩ := run_bind_eq_ok hrun
  obtain ⟨hsound₁, hleads₁, -, hagain₁⟩ := generator_again hsound hgenerator
  obtain ⟨hsound₂, hleads₂, hagain₂⟩ := hx w₁ a w₂ hrest hsound₁ hgood
  refine ⟨hsound₂, hleads₁.trans hleads₂, fun final v hfinal hlater hbetween => ?_⟩
  obtain ⟨g', v₁, hgenerator', -, hbetween₁⟩ := hagain₁ final v (hleads₂.trans hlater) hbetween
  obtain ⟨v₂, hrest', hbetween₂⟩ := hagain₂ final v₁ hfinal hlater hbetween₁
  refine ⟨v₂, ?_, hbetween₂⟩
  rw [run_bind, hgenerator']
  exact hrest'

theorem repeats_planBase (p : Pipeline) (start : FileTree) :
    Repeats p start p.planBase p.planBase (fun _ => True) id :=
  .generator_bind (.idle (idle_liftMisuse _))

theorem repeats_planModel (p : Pipeline) (start : FileTree) (m : Model) (names : Datum) :
    Repeats p start (p.planModel m names) (p.planModel m names) (fun _ => True) id := by
  unfold planModel
  refine .bind_idle (idle_liftMisuse _) fun names => ?_
  refine .bind_same (Q := fun _ => True) (.mapM_same fun g _ => ?_) (fun _ _ _ _ => trivial)
    fun groups _ => .pure _ id
  exact .generator_bind (.idle (idle_liftMisuse _))

/-! ### Models can be described again -/

/-- The analysis of a model comes to the same from every workshop, and only logs. -/
theorem idle_analyze (p : Pipeline) (model : Datum) (w : Workshop) :
    Idle (p.analyze model false) ((p.analyze model false).run.run w).1 := by
  intro v
  obtain ⟨log, hlog⟩ := Workshop.exists_log ((logsOnly_analyze p model).same v).symm
  refine ⟨((p.analyze model false).run.run v).2, ?_, ?_, ?_⟩
  · rw [← analyze_eq p model v w]
    rfl
  · rw [hlog]
    rfl
  · rw [hlog]

theorem idle_attempt {x : Work α} {r : Except Fault α} (h : Idle x r) :
    Idle (Work.attempt x) (.ok r) := by
  intro w
  obtain ⟨w', hrun, hkept⟩ := h w
  have hattempt : (Work.attempt x).run.run w = (.ok (x.run.run w).1, (x.run.run w).2) := rfl
  rw [hattempt, hrun]
  exact ⟨w', rfl, hkept⟩

/-! ### Runs can be repeated -/

/-- No result is a failure, nor that of a file written into the directory of templates along a path
that is not steady. -/
def AllSettled (p : Pipeline) (start : FileTree) (s : Summary) : Prop := ∀ r ∈ s, Settled p start r

theorem repeats_run (hquestion : p.question = none) {plan : List Planned}
    (h : ∀ f ∈ plan, f.IsDart) :
    Repeats p start (p.run plan) (p.run plan) (AllSettled p start) (List.map FileResult.again) :=
  .mapM fun f hf => repeats_execute hquestion (h f hf)

/-- **A run for one model can be repeated.** -/
theorem repeats_generateFeature (hquestion : p.question = none) (model groups : Datum) :
    Repeats p start (p.generateFeature model groups false) (p.generateFeature model groups false)
      (AllSettled p start) (List.map FileResult.again) := by
  have hrepeats : ∀ r, Idle (p.analyze model false) r →
      Repeats p start (p.generateFeature model groups false) (p.generateFeature model groups false)
        (AllSettled p start) (List.map FileResult.again) := by
    intro r hidle
    unfold generateFeature
    refine .bind_idle (idle_attempt hidle) fun result => ?_
    cases result with
    | ok m =>
        exact .bind_same (repeats_planModel p start m groups) (yields_planModel_isDart p m groups)
          fun plan h => repeats_run hquestion h
    | error fault =>
        -- A model that cannot be analyzed is a failure.
        refine .of_not ?_
        dsimp only
        split
        · exact Yields.bind_any fun _ => .pure fun hgood =>
            (hgood _ (List.mem_singleton_self _)).ok rfl
        · exact .throw fault
  exact fun w => hrepeats _ (idle_analyze p model w) w

theorem repeats_generateUnlessExcluded (hquestion : p.question = none) (groups model : Datum) :
    Repeats p start (p.generateUnlessExcluded groups model) (p.generateUnlessExcluded groups model)
      (AllSettled p start) (List.map FileResult.again) := by
  unfold generateUnlessExcluded
  refine .bind_idle (idle_liftMisuse _) fun excluded => ?_
  cases excluded with
  | true => exact .bind_idle (idle_record _ _) fun _ => .pure [] (List.map FileResult.again)
  | false => exact repeats_generateFeature hquestion model groups

theorem repeats_targetsOf (p : Pipeline) (start : FileTree) (models : Datum) :
    Repeats p start (p.targetsOf models) (p.targetsOf models) (fun _ => True) id := by
  unfold targetsOf
  split
  · exact .bind_idle (idle_lift _) fun names => .pure _ id
  · exact .idle (idle_liftMisuse _)

theorem repeats_transportAmong (hquestion : p.question = none) (names : List Datum) :
    Repeats p start (p.transportAmong names) (p.transportAmong names) (AllSettled p start)
      (List.map FileResult.again) := by
  unfold transportAmong
  split
  · exact .bind_same (repeats_planBase p start) (yields_planBase_isDart p) fun plan h =>
      repeats_run hquestion h
  · exact .pure [] (List.map FileResult.again)

/-- **A run for several models can be repeated.** -/
theorem repeats_generateAll (hquestion : p.question = none) (start : FileTree)
    (models groups : Datum) :
    Repeats p start (p.generateAll models groups) (p.generateAll models groups)
      (AllSettled p start) (List.map FileResult.again) := by
  rw [generateAll_eq]
  refine .bind_same (Q := fun _ => True) (repeats_targetsOf p start models) (fun _ _ _ _ => trivial)
    fun targets _ => .bind_idle (idle_liftMisuse _) fun names => ?_
  refine (repeats_transportAmong hquestion names).bind (Q := fun _ => True)
    (fun _ _ _ _ => trivial) (fun base _ => ?_) fun base _ => ?_
  · exact Yields.bind_any fun rest => .pure fun hgood r hr => hgood r (List.mem_append_left _ hr)
  refine .bind (Q := fun _ => True)
    (.mapM fun model _ => repeats_generateUnlessExcluded hquestion groups model)
    (fun _ _ _ _ => trivial) (fun rest _ => ?_) fun rest _ => ?_
  · exact .pure fun hgood s hs r hr =>
      hgood r (List.mem_append_right _ (List.mem_flatten_of_mem hs hr))
  · rw [← List.map_flatten, ← List.map_append]
    exact .pure (base ++ rest.flatten) (List.map FileResult.again)

/-! ### A run and its repetition -/

/-- A new pipeline, on files of any kind. -/
theorem Workshop.sound_start {session : Session} (hwf : session.tree.WellFormed) :
    (Workshop.start session false).Sound p session.tree := by
  refine ⟨.refl _, hwf, rfl, ?_⟩
  rintro _ _ ⟨⟩

/-- What ends without a failure is settled. -/
theorem allSettled_of {s : Summary} (hok : s.failed = [])
    (hsteady : ∀ r ∈ s.succeeded, ∀ d ∈ p.templateDirectories,
      start.target d <+: start.target (Path.ofString r.path) →
        start.Steady (Path.ofString r.path)) : AllSettled p start s := by
  intro r hr
  refine ⟨fun hfailed => ?_, fun hwritten => ?_⟩
  · have hmem : r ∈ s.failed := List.mem_filter.2 ⟨hr, beq_iff_eq.2 hfailed⟩
    rw [hok] at hmem
    cases hmem
  · rintro ⟨d, hd, hinside⟩
    exact hsteady r (List.mem_filter.2 ⟨hr, beq_iff_eq.2 hwritten⟩) d hd hinside

/-- **A run that is repeated skips everything.**  A run without leave to overwrite, in which nothing
failed, is repeated on what it left behind: by the same pipeline, or by a new one, if the directory
of templates is not one that only the run has led to.  Then the same files are planned in the same
order, each of them is skipped, and all files stay as they are.  It is assumed that what the first
run wrote into the directory of templates, if anything, was written along a steady path. -/
theorem generateAll_again (p : Pipeline) (models groups : Datum) {session : Session} {s : Summary}
    {w v : Workshop} (hquestion : p.question = none) (hwf : session.tree.WellFormed)
    (hrun : (p.generateAll models groups).run.run (Workshop.start session false) = (.ok s, w))
    (hok : s.failed = [])
    (hsteady : ∀ r ∈ s.succeeded, ∀ d ∈ p.templateDirectories,
      session.tree.target d <+: session.tree.target (Path.ofString r.path) →
        session.tree.Steady (Path.ofString r.path))
    (hfiles : v.session.tree = w.session.tree) (hforce : v.force = false)
    (hgenerators : v.generators = w.generators ∨ v.generators = [] ∧
      ∀ d ∈ p.templateDirectories, Foreseen session.tree w.session.tree d) :
    ∃ v', (p.generateAll models groups).run.run v = (.ok (s.map FileResult.again), v') ∧
      v'.session.tree = w.session.tree := by
  obtain ⟨hsound, -, hagain⟩ := repeats_generateAll hquestion session.tree models groups _ s w
    hrun (Workshop.sound_start hwf) (allSettled_of hok hsteady)
  have hbetween : Between p (Workshop.start session false) v w := by
    refine ⟨hfiles, hforce, by rintro _ _ ⟨⟩, fun name g hg => ?_, ?_⟩
    · rcases hgenerators with hsame | ⟨hnone, -⟩
      · rw [hsame] at hg
        exact ⟨g, hg, .refl g, .inl rfl⟩
      · rw [hnone] at hg
        cases hg
    · refine hgenerators.imp (fun hsame name hnone => ?_) And.right
      rwa [hsame] at hnone
  obtain ⟨v', hrun', hbetween'⟩ := hagain w v hsound (.refl w) hbetween
  exact ⟨v', hrun', hbetween'.tree⟩

/-- A service that is generated beside a transport that was there, and once more by the same
pipeline and by a new one. -/
theorem generateAll_again_service :
    let m : Backend.Manifest :=
      ⟨"manifest.json", .ofTables [], .object (Backend.asObjects [("A", [])]), []⟩
    let p : Pipeline := ⟨m.backend,
      { Settings.standard with
        templates := { Settings.standard.templates with path := .text "own" } }, none⟩
    let tree : FileTree := ⟨["work"], [(["work"], .directory), (["work", "own"], .directory),
      (["work", "own", "service.dart.j2"], .file (.text "fresh")),
      (["work", "own", "api_service.dart.j2"], .file (.text "fresh")),
      (["work", "flutter_output"], .directory),
      (["work", "flutter_output", "services"], .directory),
      (["work", "flutter_output", "services", "api_service.dart"], .file (.text "stale"))]⟩
    let x := p.generateAll (.list [.text "A"]) (.list [.text "service"])
    let s : Summary := [⟨"flutter_output/services/api_service.dart", .skipped, "api_base", "", ""⟩,
      ⟨"flutter_output/services/a_service.dart", .written, "service", "A", ""⟩]
    ∃ w, x.run.run (Workshop.start (Session.start tree [] Web.unreachable) false) = (.ok s, w) ∧
      ∀ v ∈ [w, Workshop.start w.session false],
        ∃ v', x.run.run v = (.ok (s.map FileResult.again), v') ∧
          v'.session.tree = w.session.tree := by
  intro m p tree x s
  have hrun := run_of_isOk (x := x) (a := s)
    (s := Workshop.start (Session.start tree [] Web.unreachable) false) (by decide +kernel)
  generalize (x.run.run (Workshop.start (Session.start tree [] Web.unreachable) false)).2 = w
    at hrun
  obtain ⟨ts, hpasses, -⟩ := takes_generateAll p ["A"] ["service"] _ s w hrun
  have hwf : tree.WellFormed := FileTree.wellFormed_of_nodes (by decide)
  -- The path of the written file has no double dot.
  have hsteady : ∀ r ∈ s.succeeded, ∀ d ∈ p.templateDirectories,
      tree.target d <+: tree.target (Path.ofString r.path) →
        tree.Steady (Path.ofString r.path) := by
    intro r hr _ _ _
    obtain rfl := List.mem_singleton.1 hr
    exact FileTree.steady_of_not_mem (by decide +kernel)
  -- The directory of templates was there from the beginning.
  have hforeseen : ∀ d ∈ p.templateDirectories, Foreseen tree w.session.tree d := by
    intro d hd
    obtain rfl := List.mem_singleton.1 hd
    exact .of_there hpasses.grows rfl
  refine ⟨w, hrun, fun v hv => ?_⟩
  rcases List.mem_pair.1 hv with rfl | rfl
  · have hforce : v.force = false := (hpasses.refuses ⟨rfl, .inl rfl⟩).force
    exact generateAll_again p _ _ rfl hwf hrun rfl hsteady rfl hforce (.inl rfl)
  · exact generateAll_again p _ _ rfl hwf hrun rfl hsteady rfl rfl (.inr ⟨rfl, hforeseen⟩)

end Pipeline

end DartScaffold
