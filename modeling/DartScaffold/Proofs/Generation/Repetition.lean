/-
**Generating a file once more.**

A file that was generated can be generated again, by the same generator or by a new one, and comes
to the same text, although there are more files now and the generator may remember more.  What fills
its template is told by the names that it asks for, which are answered as before.  The template
itself is looked up in a directory, if there is one, and then among the built-in templates.  One
that was found in the directory is still there, as long as the files that were there have not been
changed; and a built-in one is found again, since only files of Dart have been added, which no
template is called like.

Main definitions:

* `FileTree.Evolves` — files of Dart are added, and the files in some directories stay;
* `Template.Library.Sound` — the templates that are kept are still where they were found;
* `Template.Library.Extends`, `Dart.Generator.Extends` — nothing is forgotten;
* `Template.Library.Serves` — a library finds no other templates than another one.

Main results:

* `Template.Library.Sound.find_again` — **a template is found again**;
* `Dart.Generator.generateFile_again` — **a file is generated again**, with the same text.
-/

import Mathlib
import DartScaffold.Proofs.Files.Additions
import DartScaffold.Proofs.Generation.AskedNames
import DartScaffold.Proofs.Generation.Remembering

set_option relaxedAutoImplicit false
set_option autoImplicit false

namespace DartScaffold

/-! ### Templates in a tree -/

/-- The location is that of a file of Dart. -/
def FileTree.IsDart (loc : FileTree.Location) : Prop :=
  ∃ name, loc.getLast? = some name ∧ ".dart".toList <:+ name.toList

/-- Files of Dart are added, and the files in some directories stay what they are. -/
def FileTree.Evolves (directories : List Path) (t t' : FileTree) : Prop :=
  FileTree.Adds (fun loc => ∃ d ∈ directories, t.target d <+: loc) FileTree.IsDart t t'

namespace FileTree.Evolves

variable {directories : List Path} {t t' t'' : FileTree}

theorem refl (t : FileTree) : t.Evolves directories t := Adds.refl t

theorem trans (h : t.Evolves directories t') (h' : t'.Evolves directories t'') :
    t.Evolves directories t'' := by
  refine Adds.trans h ⟨h'.grows, fun loc content hinside => h'.same loc content ?_, h'.new⟩
  obtain ⟨d, hd, hprefix⟩ := hinside
  exact ⟨d, hd, (h.grows.target d).symm ▸ hprefix⟩

/-- What was found in one of the directories is found again. -/
theorem read (h : t.Evolves directories t') {d : Path} (hd : d ∈ directories)
    {names : List String} (hdots : ".." ∉ names) {content : Content}
    (hr : t.read (d.join ⟨"", names⟩) = .ok content) :
    t'.read (d.join ⟨"", names⟩) = .ok content := by
  refine Adds.read h ⟨d, hd, ?_⟩ hr
  rw [target_join t d hdots]
  exact List.prefix_append _ _

end FileTree.Evolves

/-! ### Names of templates -/

namespace Dart

/-- The names of the built-in templates are single names of other files than those of Dart. -/
theorem builtin_names : ∀ name ∈ builtin.map Prod.fst,
    name ≠ "" ∧ '/' ∉ name.toList ∧ name ≠ ".." ∧ ¬ ".dart".toList <:+ name.toList := by
  decide +kernel

/-- The parts of the name of a built-in template. -/
theorem parts_of_builtin {names : List String}
    (h : (builtin.lookup (Text.join "/" names)).isSome) : ∃ name, names = [name] ∧
      name ≠ ".." ∧ ¬ ".dart".toList <:+ name.toList := by
  obtain ⟨t, ht⟩ := Option.isSome_iff_exists.1 h
  have hmem : Text.join "/" names ∈ builtin.map Prod.fst :=
    List.mem_map.2 ⟨_, Entries.mem_of_lookup ht, rfl⟩
  obtain ⟨hne, hslash, hdots, hdart⟩ := builtin_names _ hmem
  cases names with
  | nil => exact absurd rfl hne
  | cons name rest =>
      cases rest with
      | nil =>
          rw [Text.join, String.intercalate_singleton] at hdots hdart
          exact ⟨name, rfl, hdots, hdart⟩
      | cons other rest =>
          -- Two names are joined by a slash, and there is none.
          refine absurd ?_ hslash
          rw [Text.toList_join, List.map_cons, List.map_cons, List.intercalate_cons_cons]
          simp

theorem not_isDart {loc : FileTree.Location} {name : String}
    (h : ¬ ".dart".toList <:+ name.toList) : ¬ FileTree.IsDart (loc ++ [name]) := by
  rintro ⟨last, hlast, hdart⟩
  rw [List.getLast?_concat, Option.some.injEq] at hlast
  exact h (hlast ▸ hdart)

end Dart

/-! ### Libraries -/

namespace Template.Library

open FileTree (Content)

variable {l l' l₁ final : Library} {overrides : List Path} {tree tree' : FileTree} {name : String}
  {names : List String} {d : Path} {o : Origin} {t : Template}

/-- The places at which a library finds templates, with what is still there. -/
inductive Stands (directories : List Path) (tree : FileTree) : Origin → Prop
  | file {d : Path} {names : List String} {content : Content} (hd : d ∈ directories)
    (hdots : ".." ∉ names) (hread : tree.read (d.join ⟨"", names⟩) = .ok content) :
    Stands directories tree (.file (d.join ⟨"", names⟩) content)
  | builtin : Stands directories tree .builtin

/-- A library of the built-in templates and of at most one directory, in which the templates that
are kept are still where they were found. -/
structure Sound (overrides : List Path) (tree : FileTree) (l : Library) : Prop where
  memory : l.memory = []
  builtin : l.builtin = Dart.builtin
  directories : l.directories = [] ∨
    ∃ d, overrides = [d] ∧ l.directories = [d] ∧ tree.isDirectory d = .ok true
  kept : ∀ name o t, l.kept.lookup name = some (o, t) → Stands l.directories tree o

/-- No template that is kept is forgotten. -/
structure Extends (l l' : Library) : Prop where
  memory : l'.memory = l.memory
  builtin : l'.builtin = l.builtin
  kept : Entries.Extends l.kept l'.kept

theorem Extends.refl (l : Library) : l.Extends l := ⟨rfl, rfl, .refl _⟩

theorem Extends.trans {l'' : Library} (h : l.Extends l') (h' : l'.Extends l'') : l.Extends l'' :=
  ⟨h'.memory.trans h.memory, h'.builtin.trans h.builtin, h.kept.trans h'.kept⟩

/-- A library looks into the same directories as another one, or into one in which it does not find
any of the built-in templates. -/
def Serves (tree : FileTree) (l l' : Library) : Prop :=
  l'.directories = l.directories ∨ l.directories = [] ∧
    ∀ names, (Dart.builtin.lookup (Text.join "/" names)).isSome →
      file? tree names l'.directories = none

/-! ### Looking into a directory -/

theorem file?_singleton (tree : FileTree) (names : List String) (d : Path) :
    file? tree names [d] =
      match tree.read (d.join ⟨"", names⟩) with
      | .ok content => some (d.join ⟨"", names⟩, content)
      | .error _ => none := by
  unfold file? file?
  by_cases hfile : tree.isFile (d.join ⟨"", names⟩) = true
  · obtain ⟨content, hread⟩ := FileTree.isFile_iff.1 hfile
    simp only [hfile, if_true, hread]
  · simp only [hfile]
    cases hread : tree.read (d.join ⟨"", names⟩) with
    | error e => rfl
    | ok content => exact absurd (FileTree.isFile_iff.2 ⟨content, hread⟩) hfile

theorem file?_eq_none_iff :
    file? tree names [d] = none ↔ tree.isFile (d.join ⟨"", names⟩) = false := by
  rw [file?_singleton, ← Bool.not_eq_true, FileTree.isFile_iff]
  cases tree.read (d.join ⟨"", names⟩) <;> simp

theorem not_mem_nameParts? (h : nameParts? name = some names) : ".." ∉ names := by
  unfold nameParts? at h
  dsimp only at h
  split at h
  · cases h
  · rename_i hno
    intro hmem
    rw [← Option.some.inj h] at hmem
    exact hno (List.contains_iff_mem.2 (List.mem_filter.1 hmem).1)

/-- Where a template is found: in the directory, or else among the built-in ones. -/
theorem Sound.origin?_cases (h : l.Sound overrides tree) (horigin : l.origin? tree name = some o) :
    ∃ names, ".." ∉ names ∧ nameParts? name = some names ∧
      ((∃ d content, l.directories = [d] ∧ tree.read (d.join ⟨"", names⟩) = .ok content ∧
          o = .file (d.join ⟨"", names⟩) content) ∨
        (file? tree names l.directories = none ∧
          (Dart.builtin.lookup (Text.join "/" names)).isSome ∧ o = .builtin)) := by
  unfold origin? at horigin
  rw [h.memory, List.lookup_nil] at horigin
  cases hnames : nameParts? name with
  | none =>
      rw [hnames] at horigin
      cases horigin
  | some names =>
      refine ⟨names, not_mem_nameParts? hnames, rfl, ?_⟩
      rw [hnames] at horigin
      dsimp only [bind, Option.bind] at horigin
      cases hfile : file? tree names l.directories with
      | none =>
          rw [hfile, h.builtin] at horigin
          obtain ⟨t, ht, rfl⟩ := Option.map_eq_some_iff.1 horigin
          exact .inr ⟨rfl, by rw [ht]; rfl, rfl⟩
      | some found =>
          rw [hfile] at horigin
          rcases h.directories with hnil | ⟨d, -, hd, -⟩
          · rw [hnil] at hfile
            cases hfile
          · rw [hd, file?_singleton] at hfile
            split at hfile
            · rename_i content hread
              obtain rfl := Option.some.inj hfile
              exact .inl ⟨d, content, hd, hread, (Option.some.inj horigin).symm⟩
            · cases hfile

/-! ### Templates that are kept -/

/-- As long as files are only added, the templates that are kept stay where they were found. -/
theorem Sound.evolves (h : l.Sound overrides tree) (hevolves : tree.Evolves overrides tree') :
    l.Sound overrides tree' := by
  refine ⟨h.memory, h.builtin, ?_, fun name o t hkept => ?_⟩
  · refine h.directories.imp_right ?_
    rintro ⟨d, hd, hdirectories, hthere⟩
    refine ⟨d, hd, hdirectories, ?_⟩
    rw [hevolves.grows.isDirectory (by rw [hthere]; simp), hthere]
  · cases h.kept name o t hkept with
    | builtin => exact .builtin
    | @file d names content hd hdots hread =>
        refine .file hd hdots (hevolves.read ?_ hdots hread)
        rcases h.directories with hnil | ⟨d', hd', hdirectories, -⟩
        · rw [hnil] at hd
          cases hd
        · rwa [hd', ← hdirectories]

theorem Sound.isCurrent (h : l.Sound overrides tree) (hkept : l.kept.lookup name = some (o, t))
    (l' : Library) : l'.isCurrent tree name o = true := by
  cases h.kept name o t hkept with
  | builtin => rfl
  | file hd hdots hread =>
      unfold Library.isCurrent
      simp only [hread, beq_self_eq_true]

/-- A template that is kept, and current, is taken again. -/
theorem find_of_kept (hkept : l.kept.lookup name = some (o, t))
    (hcurrent : l.isCurrent tree name o = true) : l.find tree name = .ok (t, l) := by
  unfold find
  rw [hkept]
  simp only [Option.filter, hcurrent, if_true]

theorem find_of_new (hkept : l.kept.lookup name = none) (horigin : l.origin? tree name = some o)
    (ht : l.templateAt name o = .ok t) :
    l.find tree name = .ok (t, { l with kept := l.kept.put name (o, t) }) := by
  unfold find
  rw [hkept, horigin]
  show (l.templateAt name o >>= _) = _
  rw [ht]
  rfl

/-- A template that is found was kept, or it is kept from now on. -/
theorem Sound.find_cases (h : l.Sound overrides tree) (hfind : l.find tree name = .ok (t, l₁)) :
    (∃ o, l.kept.lookup name = some (o, t) ∧ l₁ = l) ∨
      ∃ o, l.kept.lookup name = none ∧ l.origin? tree name = some o ∧
        l.templateAt name o = .ok t ∧ l₁ = { l with kept := l.kept.put name (o, t) } := by
  cases hkept : l.kept.lookup name with
  | some entry =>
      obtain ⟨o, t'⟩ := entry
      rw [find_of_kept hkept (h.isCurrent hkept l)] at hfind
      obtain ⟨rfl, rfl⟩ := Prod.mk.inj (Except.ok.inj hfind)
      exact .inl ⟨o, rfl, rfl⟩
  | none =>
      unfold find at hfind
      rw [hkept] at hfind
      cases horigin : l.origin? tree name with
      | none =>
          rw [horigin] at hfind
          cases hfind
      | some o =>
          rw [horigin] at hfind
          cases ht : l.templateAt name o with
          | error fault =>
              simp only [ht] at hfind
              cases hfind
          | ok t' =>
              simp only [ht] at hfind
              obtain ⟨rfl, rfl⟩ := Prod.mk.inj (Except.ok.inj hfind)
              exact .inr ⟨o, rfl, rfl, ht, rfl⟩

/-- Finding a template forgets none, and keeps it together with its place. -/
theorem Sound.find (h : l.Sound overrides tree) (hfind : l.find tree name = .ok (t, l₁)) :
    l₁.Sound overrides tree ∧ l.Extends l₁ ∧ l₁.directories = l.directories := by
  rcases h.find_cases hfind with ⟨o, -, rfl⟩ | ⟨o, hnone, horigin, -, rfl⟩
  · exact ⟨h, .refl _, rfl⟩
  · refine ⟨⟨h.memory, h.builtin, h.directories, fun other o' t' hkept => ?_⟩,
      ⟨rfl, rfl, Entries.extends_put fun entry hentry => ?_⟩, rfl⟩
    · rcases Entries.lookup_put_cases hkept with ⟨-, hplace⟩ | ⟨-, hkept⟩
      · obtain ⟨rfl, -⟩ := Prod.mk.inj hplace
        obtain ⟨names, hdots, -, ⟨d, content, hd, hread, rfl⟩ | ⟨-, -, rfl⟩⟩ :=
          h.origin?_cases horigin
        · exact .file (by rw [hd]; exact List.mem_singleton.2 rfl) hdots hread
        · exact .builtin
      · exact h.kept other o' t' hkept
    · rw [hnone] at hentry
      cases hentry

/-! ### Finding a template again -/

/-- A template is at the same place as before: its file has stayed, or no other one is found. -/
theorem Sound.origin?_again (h : l.Sound overrides tree) (hwf : tree.WellFormed)
    (hevolves : tree.Evolves overrides tree') (hmemory : l'.memory = l.memory)
    (hbuiltin : l'.builtin = l.builtin) (hserves : l.Serves tree' l')
    (horigin : l.origin? tree name = some o) : l'.origin? tree' name = some o := by
  obtain ⟨names, hdots, hnames, hplace⟩ := h.origin?_cases horigin
  unfold origin?
  rw [hmemory, hbuiltin, h.memory, h.builtin, List.lookup_nil, hnames]
  dsimp only [bind, Option.bind]
  rcases hplace with ⟨d, content, hd, hread, rfl⟩ | ⟨hnone, hthere, rfl⟩
  · have hdirectories : l'.directories = [d] := by
      rcases hserves with hsame | ⟨hnil, -⟩
      · rw [hsame, hd]
      · rw [hnil] at hd
        cases hd
    have hinside : d ∈ overrides := by
      rcases h.directories with hnil | ⟨d', hd', hdirectories', -⟩
      · rw [hnil] at hd
        cases hd
      · rw [hd', ← hdirectories', hd]
        exact List.mem_singleton.2 rfl
    rw [hdirectories, file?_singleton, hevolves.read hinside hdots hread]
  · have hnone' : file? tree' names l'.directories = none := by
      rcases hserves with hsame | ⟨-, hno⟩
      · rw [hsame]
        rcases h.directories with hnil | ⟨d, -, hd, hdirectory⟩
        · rw [hnil]
          rfl
        · -- The name is that of no file of Dart, so no file of this name has been added.
          obtain ⟨key, rfl, -, hkey⟩ := Dart.parts_of_builtin hthere
          rw [hd, file?_eq_none_iff] at hnone ⊢
          obtain ⟨hl, -⟩ :=
            FileTree.status_eq_ok_iff.1 (FileTree.isDirectory_eq_true_iff.1 hdirectory)
          refine hevolves.isFile_eq_false hwf ((FileTree.steady_of_locate hl).join hdots) ?_ hnone
          rw [FileTree.target_join tree d hdots]
          exact Dart.not_isDart hkey
      · exact hno names hthere
    rw [hnone']
    obtain ⟨t, ht⟩ := Option.isSome_iff_exists.1 hthere
    rw [ht]
    rfl

/-- **A template is found again**, by a library that keeps some of what the first one came to keep
in the end. -/
theorem Sound.find_again (h : l.Sound overrides tree) (hwf : tree.WellFormed)
    (hevolves : tree.Evolves overrides tree') (hfind : l.find tree name = .ok (t, l₁))
    (hfinal : final.Sound overrides tree') (hlater : l₁.Extends final)
    (hdirectories : final.directories = l.directories) (hext : l.Extends l')
    (hext' : l'.Extends final) (hserves : final.Serves tree' l') :
    ∃ l₁', l'.find tree' name = .ok (t, l₁') ∧ l₁.Extends l₁' ∧ l₁'.Extends final ∧
      l₁'.directories = l'.directories := by
  -- What the second library keeps is kept in the end, and so it is current.
  have hcurrent : ∀ o t, l'.kept.lookup name = some (o, t) → l'.isCurrent tree' name o = true :=
    fun o t hkept => hfinal.isCurrent (hext'.kept _ _ hkept) l'
  rcases h.find_cases hfind with ⟨o, hkept, rfl⟩ | ⟨o, hnone, horigin, ht, rfl⟩
  · have hkept' := hext.kept _ _ hkept
    exact ⟨l', find_of_kept hkept' (hcurrent o t hkept'), hext, hext', rfl⟩
  · have hend : final.kept.lookup name = some (o, t) :=
      hlater.kept _ _ (Entries.lookup_put_self ..)
    cases hkept' : l'.kept.lookup name with
    | some entry =>
        obtain rfl : entry = (o, t) :=
          Option.some.inj ((hext'.kept _ _ hkept').symm.trans hend)
        refine ⟨l', find_of_kept hkept' (hcurrent o t hkept'), ?_, hext', rfl⟩
        exact ⟨hext.memory, hext.builtin, hext.kept.put_left hkept'⟩
    | none =>
        have hserves' : l.Serves tree' l' := by
          unfold Serves at hserves ⊢
          rwa [hdirectories] at hserves
        have horigin' := h.origin?_again hwf hevolves hext.memory hext.builtin hserves' horigin
        have ht' : l'.templateAt name o = .ok t := by
          unfold templateAt at ht ⊢
          rwa [hext.builtin]
        refine ⟨_, find_of_new hkept' horigin' ht', ?_, ?_, rfl⟩
        · exact ⟨hext.memory, hext.builtin, hext.kept.put⟩
        · exact ⟨hext'.memory, hext'.builtin, hext'.kept.put_left hend⟩

end Template.Library

/-! ### Generators -/

namespace Dart.Generator

variable {g g' final : Generator} {overrides : List Path} {tree tree' : FileTree} {m : Model}
  {a : Artifact} {text : String}

/-- Neither names nor templates are forgotten. -/
structure Extends (g g' : Generator) : Prop where
  settings : g'.settings = g.settings
  names : g.names.Extends g'.names
  library : g.library.Extends g'.library

theorem Extends.refl (g : Generator) : g.Extends g := ⟨rfl, .refl _, .refl _⟩

theorem Extends.trans {g'' : Generator} (h : g.Extends g') (h' : g'.Extends g'') : g.Extends g'' :=
  ⟨h'.settings.trans h.settings, h.names.trans h'.names, h.library.trans h'.library⟩

/-- A file is generated if nothing is wrong with its model, and if its template is found and can be
filled. -/
theorem generateFile_of {warnings : List String} {scope : Template.Scope} {t : Template}
    {library : Template.Library} (hwarnings : a.warnings g.context m = .ok warnings)
    (hscope : a.scope (g.learn m).context m = .ok scope)
    (hfind : g.library.find tree (g.templateName a.templateStem) = .ok (t, library)) :
    (g.generateFile tree m a).text =
        ((Template.Library.textOf (some (g.templateName a.templateStem)) t scope).mapError
          (Template.RenderFault.toFault (.failed (g.templateName a.templateStem)))).map tidy ∧
      (g.generateFile tree m a).next = { g.learn m with library := library } := by
  have hfind' : (g.learn m).library.find tree ((g.learn m).templateName a.templateStem) =
      .ok (t, library) := hfind
  unfold generateFile
  simp only [hwarnings, hscope, Template.Library.fill, hfind', and_true]
  rfl

theorem generateFile_cases (h : (g.generateFile tree m a).text = .ok text) :
    ∃ warnings scope t library, a.warnings g.context m = .ok warnings ∧
      a.scope (g.learn m).context m = .ok scope ∧
      g.library.find tree (g.templateName a.templateStem) = .ok (t, library) := by
  unfold generateFile at h
  cases hwarnings : a.warnings g.context m with
  | error f =>
      rw [hwarnings] at h
      cases h
  | ok warnings =>
      cases hscope : a.scope (g.learn m).context m with
      | error f =>
          simp only [hwarnings, hscope] at h
          cases h
      | ok scope =>
          cases hfind : (g.learn m).library.find tree ((g.learn m).templateName a.templateStem) with
          | error f =>
              simp only [hwarnings, hscope, Template.Library.fill, hfind] at h
              cases h
          | ok found => exact ⟨warnings, scope, found.1, found.2, rfl, rfl, hfind⟩

/-- Generating a file forgets nothing. -/
theorem generateFile_extends (hsound : g.library.Sound overrides tree)
    (h : (g.generateFile tree m a).text = .ok text) :
    (g.generateFile tree m a).next.library.Sound overrides tree ∧
      g.Extends (g.generateFile tree m a).next ∧
      (g.generateFile tree m a).next.library.directories = g.library.directories := by
  obtain ⟨warnings, scope, t, library, hwarnings, hscope, hfind⟩ := generateFile_cases h
  obtain ⟨hsound', hlibrary, hdirectories⟩ := hsound.find hfind
  rw [(generateFile_of hwarnings hscope hfind).2]
  exact ⟨hsound', ⟨rfl, Naming.Names.extends_learn _ _, hlibrary⟩, hdirectories⟩

/-- **A file that was generated is generated again**, by a generator that remembers some of what the
first one came to remember in the end. -/
theorem generateFile_again (hsound : g.library.Sound overrides tree) (hwf : tree.WellFormed)
    (hevolves : tree.Evolves overrides tree') (h : (g.generateFile tree m a).text = .ok text)
    (hfinal : final.library.Sound overrides tree')
    (hlater : (g.generateFile tree m a).next.Extends final)
    (hdirectories : final.library.directories = g.library.directories) (hext : g.Extends g')
    (hext' : g'.Extends final) (hserves : final.library.Serves tree' g'.library) :
    (g'.generateFile tree' m a).text = .ok text ∧
      (g.generateFile tree m a).next.Extends (g'.generateFile tree' m a).next ∧
      (g'.generateFile tree' m a).next.Extends final ∧
      (g'.generateFile tree' m a).next.library.directories = g'.library.directories := by
  obtain ⟨warnings, scope, t, library, hwarnings, hscope, hfind⟩ := generateFile_cases h
  obtain ⟨htext, hnext⟩ := generateFile_of hwarnings hscope hfind
  rw [hnext] at hlater ⊢
  have hrequests : nameRequests g'.context m = nameRequests g.context m := by
    unfold nameRequests Context.included Context.isLeftOut context
    rw [hext.settings]
  -- The names that are learnt answer alike whatever the model asks for.
  obtain ⟨hnames, hnames'⟩ : (g.learn m).names.Extends (g'.learn m).names ∧
      (g'.learn m).names.Extends final.names := by
    unfold learn
    rw [hrequests]
    exact Naming.Names.learn_between hext.names hext'.names hlater.names
  have hagrees : Agrees m (g.learn m).context (g'.learn m).context :=
    ⟨hext.settings, fun r hr => hnames.name_eq (Naming.Names.isSome_learn hr)⟩
  have hscope' : a.scope (g'.learn m).context m = .ok scope := by rw [hagrees.scope, hscope]
  have htemplate : g'.templateName a.templateStem = g.templateName a.templateStem := by
    unfold templateName
    rw [hext.settings]
  obtain ⟨warnings', hwarnings'⟩ := exists_warnings hwarnings g'.context
  obtain ⟨library', hfind', hlibrary, hlibrary', hsame⟩ := hsound.find_again hwf hevolves hfind
    hfinal hlater.library hdirectories hext.library hext'.library hserves
  rw [← htemplate] at hfind'
  obtain ⟨htext', hnext'⟩ := generateFile_of hwarnings' hscope' hfind'
  rw [htext', htemplate, ← htext, hnext']
  exact ⟨h, ⟨hext.settings, hnames, hlibrary⟩, ⟨hext'.settings, hnames', hlibrary'⟩, hsame⟩

end Dart.Generator

end DartScaffold
