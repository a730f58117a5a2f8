/-
**New generators.**

A pipeline makes a generator for a component when it first needs one.  A new generator remembers
nothing, and it looks for templates in the directory that the settings name, if that is there at the
moment.  So two generators that are made for the same settings at different times differ in the
directory, if at all: it has come to be there in between.  If its path could be followed as far as
anything was there, then the directory was made together with what it holds, and no templates are
found in it; but a path with a double dot may have been led to one that has been there all the time.

Main definitions:

* `Pipeline.templateDirectories` — the directory of templates that the settings name, if any;
* `Pipeline.Made` — a new generator;
* `Pipeline.Foreseen` — the directory of templates is not one that only a run has led to.

Main results:

* `Pipeline.run_make` — what making a generator comes to;
* `Pipeline.made_of_run`, `Pipeline.exists_made` — what is made, and that it can be made again;
* `Pipeline.Made.extends_made`, `Pipeline.Made.serves` — **a generator that is made later**
  remembers the same, and finds no other templates.
-/

import Mathlib
import DartScaffold.Proofs.Generation.Repetition
import DartScaffold.Proofs.Pipeline.Writing

set_option relaxedAutoImplicit false
set_option autoImplicit false

namespace DartScaffold.Pipeline

open Dart (Generator)
open Template (Library)

variable {p : Pipeline} {tree tree' : FileTree} {g g' : Generator} {name : String}

/-! ### Making generators -/

/-- The directories that replace the built-in templates; at most one. -/
def templateDirectories (p : Pipeline) : List Path :=
  (Generator.overrides p.settings.templates).toOption.getD []

/-- The directories that are there, if this can be told of each of them. -/
def presentAmong (tree : FileTree) : List Path → Except Fault (List Path)
  | [] => .ok []
  | d :: rest =>
    match tree.isDirectory d with
    | .error e => .error (.file e)
    | .ok there => (presentAmong tree rest).map fun more => if there then d :: more else more

theorem run_presentDirectories (directories : List Path) (s : Session) :
    ((Library.presentDirectories directories).run.run s).1 = presentAmong s.tree directories := by
  induction directories generalizing s with
  | nil => rfl
  | cons d rest ih =>
      have hrest : ∀ (s' : Session) (there : Bool), s'.tree = s.tree →
          ((do
            let more ← Library.presentDirectories rest
            return if there then d :: more else more : Run (List Path)).run.run s').1 =
              (presentAmong s.tree rest).map fun more => if there then d :: more else more := by
        intro s' there htree
        rw [run_bind, ← htree, ← ih s']
        rcases (Library.presentDirectories rest).run.run s' with ⟨_ | _, s''⟩ <;> rfl
      unfold presentAmong Library.presentDirectories
      rw [run_bind]
      change ((liftM (s.tree.isDirectory d) >>= _ : Run (List Path)).run.run s).1 = _
      rw [run_bind]
      cases s.tree.isDirectory d with
      | error e => rfl
      | ok there =>
          -- A directory that is missing is logged, which changes no file.
          cases there with
          | true => exact hrest s true rfl
          | false => exact hrest _ false (Prod.mk.inj (retains_record .warning _ s)).1

/-- What making a generator of a component comes to; only the files tell what that is. -/
theorem run_make (component : Dart.Component) (settings : Settings) (s : Session) :
    ((Generator.make component settings).run.run s).1 =
      match Generator.overrides settings.templates with
      | .error f => .error (.misuse f)
      | .ok directories => (presentAmong s.tree directories).map fun present =>
          ⟨component, settings, Dart.sanitizer.names, ⟨[], present, Dart.builtin, []⟩⟩ := by
  unfold Generator.make
  rw [run_bind]
  cases Generator.overrides settings.templates with
  | error f => rfl
  | ok directories =>
      change
        ((Library.make directories none Dart.builtin >>= _ : Run Generator).run.run s).1 = _
      unfold Library.make
      have hpresent := run_presentDirectories directories s
      rw [run_bind, run_bind]
      rcases hrun : (Library.presentDirectories directories).run.run s with ⟨r, s'⟩
      rw [hrun] at hpresent
      dsimp only
      rw [← hpresent]
      cases r with
      | error f => rfl
      | ok present =>
          change Except.ok _ = Except.ok _
          rw [List.append_nil]

/-- What making a generator of a registered component comes to. -/
theorem run_standard_generator (p : Pipeline) (name : String) (s : Session) :
    ((Registry.standard.generator .null name (.settings p.settings)).run.run s).1 =
      match Registry.standard.find name, Generator.overrides p.settings.templates with
      | .error f, _ => .error f
      | .ok _, .error f => .error (.misuse f)
      | .ok c, .ok directories => (presentAmong s.tree directories).map fun present =>
          ⟨c, p.settings, Dart.sanitizer.names, ⟨[], present, Dart.builtin, []⟩⟩ := by
  unfold Registry.generator
  rw [run_bind]
  cases Registry.standard.find name with
  | error f => rfl
  | ok c =>
      change ((pure p.settings >>= fun s => Generator.make c s : Run Generator).run.run s).1 = _
      rw [pure_bind, run_make]
      cases Generator.overrides p.settings.templates <;> rfl

/-- A new generator: it remembers nothing, and it looks for templates in the directory that the
settings name, if that is there. -/
structure Made (p : Pipeline) (tree : FileTree) (g : Generator) : Prop where
  settings : g.settings = p.settings
  names : g.names = Dart.sanitizer.names
  memory : g.library.memory = []
  builtin : g.library.builtin = Dart.builtin
  kept : g.library.kept = []
  directories :
    (g.library.directories = [] ∧ ∀ d ∈ p.templateDirectories, tree.isDirectory d = .ok false) ∨
      ∃ d, p.templateDirectories = [d] ∧ g.library.directories = [d] ∧ tree.isDirectory d = .ok true

theorem overrides_cases {t : TemplateSettings} {directories : List Path}
    (h : Generator.overrides t = .ok directories) :
    directories = [] ∨ ∃ d, directories = [d] := by
  unfold Generator.overrides at h
  split at h
  · split at h
    · exact .inr ⟨_, (Except.ok.inj h).symm⟩
    · cases h
  · exact .inl (Except.ok.inj h).symm

theorem presentAmong_singleton (tree : FileTree) (d : Path) :
    presentAmong tree [d] =
      match tree.isDirectory d with
      | .error e => .error (.file e)
      | .ok there => .ok (if there then [d] else []) := by
  unfold presentAmong
  cases tree.isDirectory d <;> rfl

theorem run_standard_generator_eq_ok {s : Session}
    (h : ((Registry.standard.generator .null name (.settings p.settings)).run.run s).1 = .ok g) :
    ∃ c present, Registry.standard.find name = .ok c ∧
      Generator.overrides p.settings.templates = .ok p.templateDirectories ∧
      presentAmong s.tree p.templateDirectories = .ok present ∧
      g = ⟨c, p.settings, Dart.sanitizer.names, ⟨[], present, Dart.builtin, []⟩⟩ := by
  rw [run_standard_generator] at h
  unfold templateDirectories
  cases hfind : Registry.standard.find name with
  | error f =>
      rw [hfind] at h
      cases h
  | ok c =>
      cases hdirectories : Generator.overrides p.settings.templates with
      | error f =>
          rw [hfind, hdirectories] at h
          cases h
      | ok directories =>
          rw [hfind, hdirectories] at h
          dsimp only at h
          cases hpresent : presentAmong s.tree directories with
          | error f =>
              rw [hpresent] at h
              cases h
          | ok present =>
              rw [hpresent] at h
              exact ⟨c, present, rfl, rfl, hpresent, (Except.ok.inj h).symm⟩

theorem made_of_run {s : Session}
    (h : ((Registry.standard.generator .null name (.settings p.settings)).run.run s).1 = .ok g) :
    Made p s.tree g := by
  obtain ⟨c, present, -, hdirectories, hpresent, rfl⟩ := run_standard_generator_eq_ok h
  refine ⟨rfl, rfl, rfl, rfl, rfl, ?_⟩
  change (present = [] ∧ _) ∨ ∃ d, _ ∧ present = [d] ∧ _
  rcases overrides_cases hdirectories with hnil | ⟨d, hd⟩
  · rw [hnil] at hpresent ⊢
    exact .inl ⟨(Except.ok.inj hpresent).symm, by simp⟩
  · rw [hd, presentAmong_singleton] at hpresent
    rw [hd]
    cases hthere : s.tree.isDirectory d with
    | error e =>
        rw [hthere] at hpresent
        cases hpresent
    | ok there =>
        rw [hthere] at hpresent
        obtain rfl := Except.ok.inj hpresent
        cases there with
        | true => exact .inr ⟨d, rfl, rfl, hthere⟩
        | false => exact .inl ⟨rfl, by simp [hthere]⟩

/-- A generator that could be made can be made again, if the directory can be looked up. -/
theorem exists_made {s s' : Session}
    (h : ((Registry.standard.generator .null name (.settings p.settings)).run.run s).1 = .ok g)
    (hlookup : ∀ d ∈ p.templateDirectories, ∃ there, s'.tree.isDirectory d = .ok there) :
    ∃ g',
      ((Registry.standard.generator .null name (.settings p.settings)).run.run s').1 = .ok g' := by
  obtain ⟨c, -, hfind, hdirectories, -, -⟩ := run_standard_generator_eq_ok h
  rw [run_standard_generator, hfind, hdirectories]
  rcases overrides_cases hdirectories with hnil | ⟨d, hd⟩
  · rw [hnil]
    exact ⟨_, rfl⟩
  · obtain ⟨there, hthere⟩ := hlookup d (by rw [hd]; exact List.mem_singleton.2 rfl)
    dsimp only
    rw [hd, presentAmong_singleton, hthere]
    exact ⟨_, rfl⟩

/-! ### What a new generator remembers -/

namespace Made

theorem sound (h : Made p tree g) : g.library.Sound p.templateDirectories tree := by
  refine ⟨h.memory, h.builtin, h.directories.imp_left And.left, fun name o t hkept => ?_⟩
  rw [h.kept] at hkept
  cases hkept

theorem extends_of (h : Made p tree g) {last : Generator} (hlast : g.Extends last)
    (hext : g'.Extends last) : g.Extends g' := by
  refine ⟨hext.settings.symm.trans hlast.settings,
    ⟨hext.names.sanitizer.symm.trans hlast.names.sanitizer, ?_⟩,
    ⟨hext.library.memory.symm.trans hlast.library.memory,
      hext.library.builtin.symm.trans hlast.library.builtin, ?_⟩⟩
  · rw [h.names]
    rintro _ _ ⟨⟩
  · rw [h.kept]
    rintro _ _ ⟨⟩

/-- New generators remember the same, namely nothing. -/
theorem extends_made (h : Made p tree g) (h' : Made p tree' g') : g.Extends g' := by
  refine ⟨h'.settings.trans h.settings.symm, ?_,
    ⟨h'.memory.trans h.memory.symm, h'.builtin.trans h.builtin.symm, ?_⟩⟩
  · rw [h.names, h'.names]
    exact .refl _
  · rw [h.kept, h'.kept]
    exact .refl _

end Made

/-! ### The directory of templates -/

/-- The directory of templates is as it was, or its path was steady and it can be looked up. -/
def Foreseen (t t' : FileTree) (d : Path) : Prop :=
  t'.isDirectory d = t.isDirectory d ∨ t.Steady d ∧ ∃ there, t'.isDirectory d = .ok there

/-- A directory that was there stays. -/
theorem Foreseen.of_there {t t' : FileTree} {d : Path} (hg : t.Grows t')
    (hthere : t.isDirectory d = .ok true) : Foreseen t t' d :=
  .inl (hg.isDirectory (by rw [hthere]; simp))

theorem Foreseen.later {t t' t'' : FileTree} {d : Path} (h : Foreseen t t'' d) (hg : t.Grows t')
    (hg' : t'.Grows t'') : Foreseen t' t'' d := by
  rcases h with hsame | ⟨hsteady, hthere⟩
  · exact .inl (hg.isDirectory_eq hg' hsame)
  · exact .inr ⟨hsteady.grows hg, hthere⟩

namespace Made

/-- The directory of templates can be looked up again. -/
theorem exists_isDirectory (h : Made p tree g)
    (hforeseen : ∀ d ∈ p.templateDirectories, Foreseen tree tree' d) :
    ∀ d ∈ p.templateDirectories, ∃ there, tree'.isDirectory d = .ok there := by
  intro d hd
  rcases hforeseen d hd with hsame | ⟨-, hthere⟩
  · rw [hsame]
    rcases h.directories with ⟨-, hno⟩ | ⟨d', hd', -, hyes⟩
    · exact ⟨false, hno d hd⟩
    · rw [hd', List.mem_singleton] at hd
      exact ⟨true, hd ▸ hyes⟩
  · exact hthere

/-- A generator that is made later finds no other templates: its directory is the same, or there is
no template in it. -/
theorem serves (h : Made p tree g) (h' : Made p tree' g') (hwf : tree.WellFormed)
    (hevolves : tree.Evolves p.templateDirectories tree')
    (hforeseen : ∀ d ∈ p.templateDirectories, Foreseen tree tree' d) {last : Generator}
    (hlast : last.library.directories = g.library.directories) :
    last.library.Serves tree' g'.library := by
  unfold Library.Serves
  rw [hlast]
  rcases h.directories with ⟨hnil, hno⟩ | ⟨d, hd, hdirectories, hyes⟩
  · rcases h'.directories with ⟨hnil', -⟩ | ⟨d, hd, hdirectories', hyes'⟩
    · exact .inl (hnil'.trans hnil.symm)
    · refine .inr ⟨hnil, fun names hthere => ?_⟩
      have hmem : d ∈ p.templateDirectories := by
        rw [hd]
        exact List.mem_singleton.2 rfl
      have hfirst := hno d hmem
      obtain ⟨name, rfl, hdots, hname⟩ := Dart.parts_of_builtin hthere
      rw [hdirectories', Library.file?_eq_none_iff]
      rcases hforeseen d hmem with hsame | ⟨hsteady, -⟩
      · rw [hsame, hfirst] at hyes'
        cases hyes'
      · exact hevolves.isFile_eq_false_of_new hwf hsteady (by simpa using hdots.symm)
          (List.cons_ne_nil _ _) (Dart.not_isDart hname) hfirst hyes'
  · refine .inl ?_
    rcases h'.directories with ⟨-, hno'⟩ | ⟨d', hd', hdirectories', -⟩
    · have hstill := hevolves.grows.isDirectory (by rw [hyes]; simp)
      rw [hno' d (by rw [hd]; exact List.mem_singleton.2 rfl), hyes] at hstill
      cases hstill
    · rw [hdirectories, hdirectories', ← hd', hd]

end Made

end DartScaffold.Pipeline
