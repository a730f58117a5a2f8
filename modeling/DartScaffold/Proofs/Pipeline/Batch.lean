/-
**Runs over several models.**

A run over the models of a manifest takes its targets one after another.  A file that cannot be
generated or written is recorded, and so is a model that is not there or whose sections are of a
wrong form; then the run goes on.  A value of the wrong kind in another place of an entry breaks the
run off.  With settings that can be worked with nothing else does, and whether it happens is told
by the entries alone, not by the files or by what was generated before.

Main definitions:

* `Settings.Usable` — settings that can be worked with;
* `Backend.entryOf?`, `Backend.targetEnding` — the entry of a target, and how its analysis ends;
* `Pipeline.targetsOf`, `Pipeline.transportAmong` — the first steps of a run.

Main results:

* `Backend.model_eq` — a model is found under its name, or else by its class;
* `Pipeline.endsIn_execute` — generating and writing a planned file always returns;
* `Pipeline.endsIn_generateFeature` — how the generation for one target ends;
* `Pipeline.generateAll_eq` — a run step by step;
* `Pipeline.endsIn_generateAll` — **how a run over targets ends**.
-/

import Mathlib
import DartScaffold.Proofs.Analysis.EntryEnding

set_option relaxedAutoImplicit false
set_option autoImplicit false

namespace DartScaffold

open Pipeline (Ending EndsIn Group Planned Work Workshop)

/-! ### Settings -/

/-- Settings that can be worked with: the folders are texts, a directory of templates can be looked
for if there is to be one, and the models that are left out have names. -/
structure Settings.Usable (s : Settings) : Prop where
  folders : ∀ d ∈ [s.output.basePath, s.output.modelsPath, s.output.servicesPath,
    s.output.widgetsPath, s.output.screensPath], Backend.isText d = true
  templates : s.templates.path.truthy = true → ∃ path, s.templates.path = .text path ∧
    ∀ tree : FileTree, ∃ there, tree.isDirectory (Path.ofString path) = .ok there
  excluded : ∀ d ∈ s.excludedModels, Backend.isText d = true

/-- The usual settings can be worked with. -/
theorem Settings.usable_standard : Settings.standard.Usable :=
  ⟨by decide, fun h => absurd h (by decide), by decide⟩

/-! ### Targets -/

namespace Backend

/-- Entries that are objects, as values. -/
def asObjects (entries : List (String × List (String × Datum))) : List (String × Datum) :=
  entries.map fun e => (e.1, .object e.2)

/-- The entry of a target: the one under its name, or else the first one with its class. -/
def entryOf? (entries : List (String × List (String × Datum))) (target : String) :
    Option (String × List (String × Datum)) :=
  match entries.lookup target with
  | some members => some (target, members)
  | none => entries.find? fun e => (memberOr "class" .null e.2).same (.text target)

/-- How the analysis of a target ends: as that of its entry; without one, the fault is recorded. -/
def targetEnding (options : AnalysisSettings) (schema : Schema)
    (entries : List (String × List (String × Datum))) (target : String) : Ending :=
  match entryOf? entries target with
  | some (key, members) => entryEnding options schema key members
  | none => .recorded

theorem findClass_map (target : String) (entries : List (String × List (String × Datum))) :
    Manifest.findClass (.text target) (asObjects entries) =
      .ok ((entries.find? fun e => (memberOr "class" .null e.2).same (.text target)).map
        fun e => (e.1, .object e.2)) := by
  induction entries with
  | nil => rfl
  | cons e rest ih =>
      have hclass : (memberOr "class" .null e.2).same (.text target) =
          (((e.2.lookup "class").getD .null).same (.text target)) := rfl
      rw [asObjects, List.map_cons, Manifest.findClass, Datum.memberFor_object, List.find?_cons,
        hclass]
      cases hsame : ((e.2.lookup "class").getD .null).same (.text target) with
      | true =>
          show (if _ then _ else _) = _
          rw [if_pos hsame]
          rfl
      | false =>
          show (if _ then _ else _) = _
          rw [if_neg (by rw [hsame]; decide)]
          exact ih

theorem lookup_map_object (entries : List (String × List (String × Datum))) (target : String) :
    (asObjects entries).lookup target =
      (entries.lookup target).map .object :=
  Entries.lookup_map (fun _ members => Datum.object members) entries target

theorem any_same_eq (entries : List (String × List (String × Datum))) (target : String) :
    ((asObjects entries).any fun m =>
      (Datum.text target).same (.text m.1)) = (entries.lookup target).isSome := by
  induction entries with
  | nil => rfl
  | cons e rest ih =>
      rw [asObjects, List.map_cons, List.any_cons, ← asObjects, ih, List.lookup_cons]
      have hsame : (Datum.text target).same (.text e.1) = (target == e.1) := by
        simp [Datum.same]
      rw [hsame]
      cases target == e.1 <;> simp

/-- A model is found under its name, or else by its class. -/
theorem model_eq {m : Manifest} {entries : List (String × List (String × Datum))}
    (h : m.models = .object (asObjects entries)) (target : String) :
    m.model (.text target) =
      (entryOf? entries target).elim
        (.error (.model (.notDescribed (Datum.text target).display m.source)))
        fun e => .ok (Manifest.viewOf (.text e.1) (.object e.2)) := by
  have hholds : Datum.holds (.text target) m.models = .ok (entries.lookup target).isSome := by
    rw [h, ← any_same_eq]
    rfl
  unfold Manifest.model entryOf?
  rw [hholds]
  cases hlookup : entries.lookup target with
  | some members =>
      have hpart : Datum.partAt (.text target) m.models = .ok (.object members) := by
        simp only [h, Datum.partAt, Datum.member, lookup_map_object, hlookup, Option.map_some]
      rw [hpart]
      rfl
  | none =>
      have hfind := findClass_map target entries
      have hmembers : m.models.membersFor "items" = .ok (asObjects entries) := by
        rw [h]
        rfl
      rw [hmembers]
      show (liftM (Manifest.findClass (.text target) (asObjects entries)) >>= _ :
        Except Fault Backend.ModelView) = _
      rw [hfind]
      cases entries.find? fun e => (memberOr "class" .null e.2).same (.text target) <;> rfl

end Backend

namespace Pipeline

variable {p : Pipeline}

/-! ### Making generators -/

/-- The templates of a library can be looked for. -/
theorem endsIn_presentDirectories {directories : List Path}
    (h : ∀ d ∈ directories, ∀ tree : FileTree, ∃ there, tree.isDirectory d = .ok there) :
    EndsIn (Template.Library.presentDirectories directories) .returns := by
  induction directories with
  | nil => exact EndsIn.pure []
  | cons d rest ih =>
      have ih := ih fun e he => h e (List.mem_cons_of_mem _ he)
      unfold Template.Library.presentDirectories
      refine EndsIn.bind (fun _ => rfl) fun tree => ?_
      obtain ⟨there, hthere⟩ := h d (List.mem_cons_self ..) tree
      refine EndsIn.bind_file hthere ?_
      cases there with
      | true => exact ih.bind fun _ => EndsIn.pure _
      | false => exact (EndsIn.record _ _).bind fun _ => ih.bind fun _ => EndsIn.pure _

theorem endsIn_make (h : p.settings.Usable) (c : Dart.Component) :
    EndsIn (Dart.Generator.make c p.settings) .returns := by
  obtain ⟨directories, hdirectories, hthere⟩ : ∃ directories,
      Dart.Generator.overrides p.settings.templates = .ok directories ∧
        ∀ d ∈ directories, ∀ tree : FileTree, ∃ there, tree.isDirectory d = .ok there := by
    unfold Dart.Generator.overrides
    by_cases ht : p.settings.templates.path.truthy = true
    · obtain ⟨path, hpath, hthere⟩ := h.templates ht
      refine ⟨[Path.ofString path], ?_, ?_⟩
      · rw [if_pos ht, hpath]
      · intro d hd
        rw [List.mem_singleton.1 hd]
        exact hthere
    · exact ⟨[], if_neg ht, by simp⟩
  unfold Dart.Generator.make Template.Library.make
  refine EndsIn.bind_misuse hdirectories ?_
  refine EndsIn.bind (EndsIn.bind (endsIn_presentDirectories hthere) fun present => ?_)
    fun library => EndsIn.pure _
  exact EndsIn.bind (fun _ => rfl) fun tree => EndsIn.bind (EndsIn.pure _) fun last => EndsIn.pure _

/-- A generator is there when it is needed. -/
theorem endsIn_generator (h : p.settings.Usable) (c : Dart.Component) :
    EndsIn (p.generator c.name) .returns := by
  have hregistered : Registry.standard.components.lookup (Text.lower c.name) = some c := by
    cases c <;> decide
  have hmake : EndsIn (Registry.standard.generator .null c.name (.settings p.settings)) .returns :=
    EndsIn.bind_fault (Registry.find_of_registered hregistered)
      (EndsIn.bind_value (fun _ => rfl) (endsIn_make h c))
  unfold generator
  refine EndsIn.bind (fun _ => rfl) fun w => ?_
  -- A generator that was made before is used again.
  cases w.generators.lookup c.name with
  | some g => exact EndsIn.pure g
  | none =>
      exact (EndsIn.ofRun hmake).bind fun g => EndsIn.bind (fun _ => rfl) fun _ => EndsIn.pure g

/-! ### Planning -/

theorem directory_ok (h : p.settings.Usable) (folder : Dart.Folder) :
    ∃ path, Dart.directory p.settings.output folder = .ok path := by
  obtain ⟨base, hbase⟩ := (Backend.isText_iff _).1 (h.folders p.settings.output.basePath (by simp))
  obtain ⟨own, hown⟩ := (Backend.isText_iff _).1
    (h.folders (folder.setting p.settings.output) (by cases folder <;> simp [Dart.Folder.setting]))
  unfold Dart.directory
  rw [hbase, hown]
  exact ⟨_, rfl⟩

theorem filePath_ok (h : p.settings.Usable) (folder : Dart.Folder) (name ending : String) :
    ∃ path, Dart.filePath p.settings.output folder name ending = .ok path := by
  obtain ⟨path, hpath⟩ := directory_ok h folder
  unfold Dart.filePath
  rw [hpath]
  exact ⟨_, rfl⟩

/-- No file is called like the record of a failed analysis. -/
theorem label_ne (a : Dart.Artifact) : label a ≠ "analysis" := by
  cases a with
  | widget kind => cases kind <;> decide
  | screen kind => cases kind <;> decide
  | _ => decide

theorem planGroup_ok (h : p.settings.Usable) (m : Model) (g : Group) :
    ∃ plan, planGroup p.settings.output m g = .ok plan ∧ ∀ f ∈ plan, f.component ≠ "analysis" := by
  refine exists_mapM_ok fun a _ => ?_
  obtain ⟨path, hpath⟩ := filePath_ok h a.component.folder (a.outputName m) a.component.ending
  have ha : a.path p.settings.output m = .ok path := hpath
  refine ⟨⟨label a, path.text, .artifact a m, m.className⟩, ?_, label_ne a⟩
  unfold planFile
  rw [ha]
  rfl

theorem planTransport_ok (h : p.settings.Usable) :
    ∃ plan, planTransport p.settings.output = .ok plan ∧ ∀ f ∈ plan, f.component ≠ "analysis" := by
  obtain ⟨path, hpath⟩ := filePath_ok h .services "api_service" ""
  have ha : Dart.Artifact.transportPath p.settings.output = .ok path := hpath
  refine ⟨[⟨label .transport, path.text, .artifact .transport default, ""⟩], ?_, ?_⟩
  · unfold planTransport
    rw [ha]
    rfl
  · intro f hf
    rw [List.mem_singleton.1 hf]
    exact label_ne .transport

/-- The transport can be planned. -/
theorem endsIn_planBase (h : p.settings.Usable) : EndsIn p.planBase .returns := by
  obtain ⟨plan, hplan, -⟩ := planTransport_ok h
  unfold planBase
  refine (endsIn_generator h .transport).bind fun _ => ?_
  rw [hplan]
  exact fun _ => rfl

/-- The files of a model can be planned. -/
theorem endsIn_planModel (h : p.settings.Usable) (m : Model) (components : List String) :
    EndsIn (p.planModel m (.list (components.map .text))) .returns := by
  obtain ⟨names, hnames⟩ : ∃ names, (Datum.list (components.map .text)).elements = .ok names :=
    Datum.asSet_texts components
  unfold planModel
  refine EndsIn.bind_misuse hnames ?_
  refine EndsIn.bind (EndsIn.mapM fun g _ => ?_) fun groups => EndsIn.pure _
  obtain ⟨plan, hplan, -⟩ := planGroup_ok h m g
  refine (endsIn_generator h g.component).bind fun _ => ?_
  rw [hplan]
  exact fun _ => rfl

/-! ### Executing -/

/-- Generating and writing a planned file always returns. -/
theorem endsIn_execute (p : Pipeline) (f : Planned) : EndsIn (p.execute f) .returns := by
  unfold execute
  refine (EndsIn.attempt _).bind fun result => ?_
  cases result with
  | ok status => exact EndsIn.pure _
  | error fault => exact (EndsIn.ofRun (EndsIn.record _ _)).bind fun _ => EndsIn.pure _

theorem endsIn_run (p : Pipeline) (plan : List Planned) : EndsIn (p.run plan) .returns :=
  EndsIn.mapM fun f _ => endsIn_execute p f

/-! ### Targets -/

/-- Whether a target is left out. -/
def isLeftOut (p : Pipeline) (target : String) : Bool :=
  match isExcluded p.settings (.text target) with
  | .ok out => out
  | .error _ => false

theorem isExcluded_eq (h : p.settings.Usable) (target : String) :
    isExcluded p.settings (.text target) = .ok (p.isLeftOut target) := by
  obtain ⟨ss, hss⟩ := Backend.exists_map_text (List.all_eq_true.2 h.excluded)
  have hnames : p.settings.excludedModels.mapM shortName = .ok (ss.map Naming.lastPiece) := by
    rw [hss]
    exact Routing.mapM_texts shortName Naming.lastPiece (fun _ => rfl) ss
  unfold isLeftOut isExcluded
  rw [hnames]
  rfl

/-- A target that is left out gives nothing but a warning. -/
theorem generateUnlessExcluded_eq (h : p.settings.Usable) (groups : Datum) (target : String) :
    p.generateUnlessExcluded groups (.text target) =
      if p.isLeftOut target then do
        Run.warn ("Model '" ++ (Datum.text target).display ++ "' is excluded from generation")
        return []
      else p.generateFeature (.text target) groups false := by
  unfold generateUnlessExcluded
  rw [isExcluded_eq h target]
  rfl

/-- How the generation for one target ends: a fault of its analysis that is recorded does not
break it off. -/
theorem endsIn_generateFeature (h : p.settings.Usable) {target : String} {e : Ending}
    (he : EndsIn (p.analyze (.text target) false) e) (components : List String) :
    EndsIn (p.generateFeature (.text target) (.list (components.map .text)) false)
      (if e = .escapes then .escapes else .returns) := by
  unfold generateFeature
  refine EndsIn.bind_attempt he fun r hr => ?_
  cases r with
  | ok m =>
      rw [← hr]
      exact (endsIn_planModel h m components).bind fun plan => endsIn_run p plan
  | error fault =>
      by_cases hf : isAnalysisFault fault = true
      · have he : e = .recorded := by rw [← hr, Ending.of, if_pos hf]
        rw [he]
        simp only [hf, if_true]
        exact (EndsIn.ofRun (EndsIn.record _ _)).bind fun _ => EndsIn.pure _
      · have he : e = .escapes := by rw [← hr, Ending.of, if_neg hf]
        rw [he]
        simp only [hf]
        intro w
        show Ending.of (.error fault : Except Fault Summary) = _
        rw [Ending.of, if_neg hf]
        rfl

variable {m : Backend.Manifest} {entries : List (String × List (String × Datum))}

/-- The model of a target is looked for in the manifest. -/
theorem modelOf_text (hbackend : p.backend = m.backend) (target : String) :
    p.modelOf (.text target) = m.model (.text target) := by
  show p.backend.model target = _
  rw [hbackend]
  rfl

/-- The analysis of a target ends as that of its entry. -/
theorem endsIn_analyze (hbackend : p.backend = m.backend)
    (hmodels : m.models = .object (Backend.asObjects entries)) (target : String) :
    EndsIn (p.analyze (.text target) false)
      (Backend.targetEnding p.settings.analysis m.schema entries target) := by
  unfold analyze Backend.targetEnding
  rw [modelOf_text hbackend, Backend.model_eq hmodels, hbackend, m.backend_schema]
  cases Backend.entryOf? entries target with
  | none =>
      show EndsIn _ .recorded
      exact EndsIn.bind_of_ne (by decide) (fun _ => rfl) _
  | some e =>
      obtain ⟨key, members⟩ := e
      refine EndsIn.bind_fault rfl ?_
      exact EndsIn.bind_last
        (EndsIn.ofRun (Backend.endsIn_analyze p.settings.analysis m.schema key members))
        fun model => EndsIn.pure model

/-- Whether a target breaks a run off: it is not left out, and its analysis is broken off. -/
def breaks (p : Pipeline) (m : Backend.Manifest)
    (entries : List (String × List (String × Datum))) (target : String) : Bool :=
  !p.isLeftOut target &&
    Backend.targetEnding p.settings.analysis m.schema entries target == .escapes

/-- How the generation for a target ends. -/
theorem endsIn_generateUnlessExcluded (h : p.settings.Usable) (hbackend : p.backend = m.backend)
    (hmodels : m.models = .object (Backend.asObjects entries)) (components : List String)
    (target : String) :
    EndsIn (p.generateUnlessExcluded (.list (components.map .text)) (.text target))
      (if p.breaks m entries target then .escapes else .returns) := by
  have hfeature := endsIn_generateFeature h (endsIn_analyze hbackend hmodels target) components
  rw [generateUnlessExcluded_eq h]
  unfold breaks
  cases p.isLeftOut target with
  | true => exact (EndsIn.ofRun (EndsIn.record _ _)).bind fun _ => EndsIn.pure _
  | false => simpa using hfeature

/-! ### Runs -/

/-- The models that a run is for. -/
def targetsOf (p : Pipeline) (models : Datum) : Work (List Datum) :=
  match models with
  | .null => do return (← (p.availableModels : Except Fault _)).map .text
  | given => (given.items : Except Misuse _)

/-- The transport, which is generated before the models if services are asked for. -/
def transportAmong (p : Pipeline) (names : List Datum) : Work Summary :=
  if names.any Group.service.isNamed then do p.run (← p.planBase) else return []

/-- **A run for several models**, step by step. -/
theorem generateAll_eq (p : Pipeline) (models groups : Datum) : p.generateAll models groups = (do
    let targets ← p.targetsOf models
    let names ← (groups.items : Except Misuse _)
    let base ← p.transportAmong names
    let rest ← targets.mapM (p.generateUnlessExcluded groups)
    return base ++ rest.flatten) := by
  have hrest : ∀ targets names : List Datum, (do
      let base ← p.transportAmong names
      let rest ← targets.mapM (p.generateUnlessExcluded groups)
      return base ++ rest.flatten) = (if names.any Group.service.isNamed = true then do
        let base ← p.run (← p.planBase)
        let rest ← targets.mapM (p.generateUnlessExcluded groups)
        return base ++ rest.flatten
      else do
        let base ← pure []
        let rest ← targets.mapM (p.generateUnlessExcluded groups)
        return base ++ rest.flatten) := by
    intro targets names
    unfold transportAmong
    split
    · rw [bind_assoc]
    · rfl
  simp only [hrest]
  unfold generateAll targetsOf
  cases models with
  | null => simp only [bind_assoc]
  | _ => rfl

/-- What is generated before the targets: the transport, if services are asked for. -/
def base (p : Pipeline) (components : List String) : Work Summary :=
  if (components.map Datum.text).any Group.service.isNamed then do p.run (← p.planBase)
  else return []

/-- What is generated for the targets. -/
def forTargets (p : Pipeline) (components targets : List String) : Work (List Summary) :=
  targets.mapM fun t => p.generateUnlessExcluded (.list (components.map .text)) (.text t)

theorem generateAll_texts (p : Pipeline) (targets components : List String) :
    p.generateAll (.list (targets.map .text)) (.list (components.map .text)) = (do
      let base ← p.base components
      let rest ← p.forTargets components targets
      return base ++ rest.flatten) := by
  have hitems : ∀ ds : List Datum, (liftM (Datum.list ds).items : Work (List Datum)) = pure ds :=
    fun _ => rfl
  rw [generateAll_eq]
  unfold targetsOf transportAmong base forTargets
  simp only [hitems, pure_bind, List.mapM_map]
  rfl

theorem endsIn_base (h : p.settings.Usable) (components : List String) :
    EndsIn (p.base components) .returns := by
  unfold base
  by_cases hservice : (components.map Datum.text).any Group.service.isNamed = true
  · rw [if_pos hservice]
    exact (endsIn_planBase h).bind fun plan => endsIn_run p plan
  · rw [if_neg hservice]
    exact EndsIn.pure []

theorem endsIn_forTargets (h : p.settings.Usable) (hbackend : p.backend = m.backend)
    (hmodels : m.models = .object (Backend.asObjects entries)) (components targets : List String) :
    EndsIn (p.forTargets components targets)
      (if targets.any (p.breaks m entries) then .escapes else .returns) :=
  EndsIn.mapM_any (endsIn_generateUnlessExcluded h hbackend hmodels components) targets

/-- **How a run over targets ends**: it is broken off if one of them breaks it off, and returns
otherwise. -/
theorem endsIn_generateAll (h : p.settings.Usable) (hbackend : p.backend = m.backend)
    (hmodels : m.models = .object (Backend.asObjects entries)) (targets components : List String) :
    EndsIn (p.generateAll (.list (targets.map .text)) (.list (components.map .text)))
      (if targets.any (p.breaks m entries) then .escapes else .returns) := by
  rw [generateAll_texts]
  refine (endsIn_base h components).bind fun base => ?_
  exact EndsIn.bind_last (endsIn_forTargets h hbackend hmodels components targets) fun rest =>
    EndsIn.pure _

/-- A run over targets returns exactly if none of them breaks it off. -/
theorem exists_run_generateAll_iff_any (h : p.settings.Usable) (hbackend : p.backend = m.backend)
    (hmodels : m.models = .object (Backend.asObjects entries)) (targets components : List String)
    (w : Workshop) :
    (∃ summary w', (p.generateAll (.list (targets.map .text))
        (.list (components.map .text))).run.run w = (.ok summary, w')) ↔
      targets.any (p.breaks m entries) = false := by
  rw [EndsIn.exists_run_iff, endsIn_generateAll h hbackend hmodels targets components w]
  cases targets.any (p.breaks m entries) <;> decide

end Pipeline

end DartScaffold
