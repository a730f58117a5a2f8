/-
**What a generator did before does not matter.**

A generator keeps the names that it gave and the templates that it found, and all its files share
what is kept.  Names are kept under a text that is put together of the name, the way of writing and
a suffix, so one request could be answered with what was kept for another one.  As long as columns
are named by texts this never happens: such a text ends differently for fields and for types, and it
begins with the whole name.  So every name that is kept is the one that would be made now, every
template that is kept is the one that would be found now, and what a generator gives for a model is
what a new one gives.

Main definitions:

* `Dart.Use`, `Dart.Generator.after` — what generators are used for, and what use makes of them;
* `Dart.IsNamed` — the columns of a model are named by texts;
* `Dart.Unbiased`, `Template.Library.Unbiased`, `Dart.Generator.Unbiased` — what is kept is what
  would be made or found now;
* `Dart.Generator.IsFor` — a generator of a component under settings.

Main results:

* `Dart.unbiased_learn`, `Template.Library.unbiased_fill` — one use keeps it so;
* `Dart.Generator.unbiased_after` — so does any number of uses, also of those that fail;
* `Dart.Generator.after_of_steps` — what asking for names and filling templates do not change about
  a generator stays so;
* `Dart.Generator.after_like_new` — **what a generator gives does not depend on its past**.
-/

import Mathlib
import DartScaffold.Proofs.Generation.AskedNames
import DartScaffold.Proofs.Naming.Memory
import DartScaffold.Proofs.Pipeline.NewGenerators

set_option relaxedAutoImplicit false
set_option autoImplicit false

namespace DartScaffold

/-! ### Templates -/

namespace Template.Library

variable {l l' : Library} {tree : FileTree} {name : String}

/-- The template of a name, if nothing were kept. -/
def lookUp (l : Library) (tree : FileTree) (name : String) : Except FindFault Template :=
  match l.origin? tree name with
  | none => .error .missing
  | some o => l.templateAt name o

/-- Every template that is kept is the one that would be found now. -/
def Unbiased (tree : FileTree) (l : Library) : Prop :=
  ∀ name o t, l.kept.lookup name = some (o, t) →
    l.origin? tree name = some o ∧ l.templateAt name o = .ok t

/-- Two libraries look for templates at the same places. -/
structure SamePlaces (l l' : Library) : Prop where
  memory : l'.memory = l.memory
  directories : l'.directories = l.directories
  builtin : l'.builtin = l.builtin

theorem SamePlaces.refl (l : Library) : l.SamePlaces l := ⟨rfl, rfl, rfl⟩

theorem SamePlaces.trans {l'' : Library} (h : l.SamePlaces l') (h' : l'.SamePlaces l'') :
    l.SamePlaces l'' :=
  ⟨h'.memory.trans h.memory, h'.directories.trans h.directories, h'.builtin.trans h.builtin⟩

theorem SamePlaces.origin?_eq (h : l.SamePlaces l') (tree : FileTree) (name : String) :
    l'.origin? tree name = l.origin? tree name := by
  unfold origin?
  rw [h.memory, h.directories, h.builtin]

theorem SamePlaces.templateAt_eq (h : l.SamePlaces l') (name : String) (o : Origin) :
    l'.templateAt name o = l.templateAt name o := by
  unfold templateAt
  rw [h.builtin]

theorem SamePlaces.lookUp_eq (h : l.SamePlaces l') (tree : FileTree) (name : String) :
    l'.lookUp tree name = l.lookUp tree name := by
  unfold lookUp
  rw [h.origin?_eq]
  cases l.origin? tree name with
  | none => rfl
  | some o => exact h.templateAt_eq name o

/-- A template that is newly kept changes neither the places nor what is right about the rest. -/
theorem unbiased_put (h : l.Unbiased tree) {o : Origin} {t : Template}
    (horigin : l.origin? tree name = some o) (ht : l.templateAt name o = .ok t) :
    ({ l with kept := l.kept.put name (o, t) } : Library).Unbiased tree := by
  have hplaces : l.SamePlaces { l with kept := l.kept.put name (o, t) } := ⟨rfl, rfl, rfl⟩
  intro other o' t' hkept
  rw [hplaces.origin?_eq, hplaces.templateAt_eq]
  rcases Entries.lookup_put_cases hkept with ⟨rfl, hentry⟩ | ⟨-, hkept⟩
  · obtain ⟨rfl, rfl⟩ := Prod.mk.inj hentry
    exact ⟨horigin, ht⟩
  · exact h other o' t' hkept

/-- What is found is what would be found if nothing were kept, and what is kept stays so. -/
theorem unbiased_find (h : l.Unbiased tree) (name : String) :
    (∃ fault, l.find tree name = .error fault ∧ l.lookUp tree name = .error fault) ∨
      ∃ t l', l.find tree name = .ok (t, l') ∧ l.lookUp tree name = .ok t ∧
        l'.Unbiased tree ∧ l.SamePlaces l' := by
  unfold find lookUp
  generalize hkept : Option.filter _ (l.kept.lookup name) = entry
  cases entry with
  | some entry =>
      obtain ⟨o, t⟩ := entry
      obtain ⟨horigin, ht⟩ := h name o t (Option.filter_eq_some_iff.1 hkept).1
      rw [horigin]
      exact .inr ⟨t, l, rfl, ht, h, .refl l⟩
  | none =>
      cases horigin : l.origin? tree name with
      | none => exact .inl ⟨.missing, rfl, rfl⟩
      | some o =>
          dsimp only
          cases ht : l.templateAt name o with
          | error fault => exact .inl ⟨fault, rfl, rfl⟩
          | ok t => exact .inr ⟨t, _, rfl, rfl, unbiased_put h horigin ht, ⟨rfl, rfl, rfl⟩⟩

/-- What a template is filled with is all that the text depends on, besides the places. -/
theorem unbiased_fill (h : l.Unbiased tree) (name : String) (scope : Scope) :
    (l.fill tree name scope).1 =
        (match l.lookUp tree name with
        | .error fault => .error (fault.toFault name)
        | .ok t => (textOf (some name) t scope).mapError (RenderFault.toFault (.failed name))) ∧
      (l.fill tree name scope).2.Unbiased tree ∧ l.SamePlaces (l.fill tree name scope).2 := by
  unfold fill
  rcases unbiased_find h name with ⟨fault, hfind, hlook⟩ | ⟨t, l', hfind, hlook, hl', hplaces⟩
  · rw [hfind, hlook]
    exact ⟨rfl, h, .refl l⟩
  · rw [hfind, hlook]
    exact ⟨rfl, hl', hplaces⟩

end Template.Library

namespace Dart

open Naming (Names Request)

/-! ### Names -/

/-- The columns of a model are named by texts. -/
def IsNamed (m : Model) : Prop := ∀ name a, (name, a) ∈ m.attributes → ∃ s, a.name = .text s

/-- Every name that is kept is the one that would be made now, for fields that are texts and for
types. -/
structure Unbiased (n : Names) : Prop where
  learned : Learned n
  field : ∀ s, n.field (.text s) = sanitizer.fresh .camel "Value" s

theorem unbiased_new : Unbiased sanitizer.names := by
  refine ⟨.new, fun s => ?_⟩
  show sanitizer.names.name (.field (.text s)) = _
  rw [Names.name_of_memo_nil, Request.field, Request.ofDatum, Naming.source_text]

theorem Unbiased.remember_field {n : Names} (h : Unbiased n) (s : String) :
    Unbiased (n.remember (.field (.text s))) := by
  refine ⟨h.learned.field _, fun t => ?_⟩
  unfold Names.field
  by_cases hk : (Request.field (.text t)).key = (Request.field (.text s)).key
  · rw [name_remember_of_eq hk]
    -- One key stands for one text.
    have hshown := shown_eq_of_key (by rfl) (by rfl) hk
    obtain rfl : t = s := hshown
    exact h.field t
  · rw [name_remember_of_ne hk]
    exact h.field t

theorem Unbiased.remember_type {n : Names} (h : Unbiased n) (s : String) :
    Unbiased (n.remember ⟨s, s, .pascal, "Model"⟩) := by
  refine ⟨h.learned.type s, fun t => ?_⟩
  unfold Names.field
  rw [name_remember_of_ne (key_field_ne_key_type (.text t) s)]
  exact h.field t

/-- A model whose columns are named by texts asks for texts only. -/
theorem IsNamed.mem_nameRequests {c : Context} {m : Model} (hm : IsNamed m) {r : Request}
    (h : r ∈ nameRequests c m) :
    (∃ s, r = .field (.text s)) ∨ ∃ s, r = ⟨s, s, .pascal, "Model"⟩ := by
  unfold nameRequests at h
  rcases List.mem_append.1 h with h | h
  · rcases List.mem_cons.1 h with rfl | h
    · exact .inr ⟨m.className, rfl⟩
    · obtain ⟨a, ha, rfl⟩ := List.mem_map.1 h
      obtain ⟨name, hattribute, -⟩ := (Context.mem_included c m a).1 ha
      obtain ⟨s, hs⟩ := hm name a hattribute
      exact .inl ⟨s, by rw [hs]⟩
  · obtain ⟨s, -, rfl⟩ := List.mem_map.1 h
    exact .inl ⟨s, rfl⟩

/-- Asking for names makes no difference to how they are answered. -/
theorem Unbiased.foldl {n : Names} (h : Unbiased n) (requests : List Request)
    (hr : ∀ r ∈ requests, (∃ s, r = .field (.text s)) ∨ ∃ s, r = ⟨s, s, .pascal, "Model"⟩) :
    Unbiased (requests.foldl Names.remember n) := by
  induction requests generalizing n with
  | nil => exact h
  | cons r rest ih =>
      have hrest := fun q hq => hr q (List.mem_cons_of_mem _ hq)
      rcases hr r (List.mem_cons_self ..) with ⟨s, rfl⟩ | ⟨s, rfl⟩
      · exact ih (h.remember_field s) hrest
      · exact ih (h.remember_type s) hrest

theorem unbiased_learn {g : Generator} (h : Unbiased g.names) {m : Model} (hm : IsNamed m) :
    Unbiased (g.learn m).names :=
  h.foldl _ fun _ hr => hm.mem_nameRequests hr

/-- Under the same settings names that are kept without bias are answered alike. -/
theorem Unbiased.agrees {c c' : Context} {m : Model} (h : Unbiased c.names)
    (h' : Unbiased c'.names) (hsettings : c'.settings = c.settings) (hm : IsNamed m) :
    Agrees m c c' := by
  refine ⟨hsettings, fun r hr => ?_⟩
  rcases hm.mem_nameRequests hr with ⟨s, rfl⟩ | ⟨s, rfl⟩
  · have hfield : c'.names.field (.text s) = c.names.field (.text s) := by
      rw [h.field, h'.field]
    exact hfield
  · have htype : c'.names.type s = c.names.type s := by
      rw [type_eq_fresh h.learned, type_eq_fresh h'.learned]
    exact htype

/-! ### Generators -/

/-- What a generator is used for: generating a file, or only telling what its template is filled
with. -/
inductive Use where
  | generate (m : Model) (options : Datum)
  | specify (m : Model) (kind : Datum)

/-- The model that a generator is used for. -/
def Use.model : Use → Model
  | generate m _ => m
  | specify m _ => m

namespace Generator

variable {g g' : Generator} {tree : FileTree} {m : Model}

/-- The generator after it was used once. -/
def afterUse (tree : FileTree) (g : Generator) : Use → Generator
  | .generate m options => (g.generate tree m options).next
  | .specify m kind => (g.specify m kind).next

/-- The generator after it was used, again and again. -/
def after (tree : FileTree) (g : Generator) (uses : List Use) : Generator :=
  uses.foldl (afterUse tree) g

/-- Names and templates that are kept are those that would be made and found now. -/
structure Unbiased (tree : FileTree) (g : Generator) : Prop where
  names : Dart.Unbiased g.names
  library : g.library.Unbiased tree

/-- Two generators of the same component, with the same settings and the same places of
templates. -/
structure SameMake (g g' : Generator) : Prop where
  component : g'.component = g.component
  settings : g'.settings = g.settings
  places : g.library.SamePlaces g'.library

theorem SameMake.refl (g : Generator) : g.SameMake g := ⟨rfl, rfl, .refl _⟩

theorem SameMake.trans {g'' : Generator} (h : g.SameMake g') (h' : g'.SameMake g'') :
    g.SameMake g'' :=
  ⟨h'.component.trans h.component, h'.settings.trans h.settings, h.places.trans h'.places⟩

theorem sameMake_learn (g : Generator) (m : Model) : g.SameMake (g.learn m) := ⟨rfl, rfl, .refl _⟩

theorem Unbiased.learn (h : g.Unbiased tree) (hm : IsNamed m) : (g.learn m).Unbiased tree :=
  ⟨unbiased_learn h.names hm, h.library⟩

/-! ### One use -/

theorem Unbiased.generateFile (h : g.Unbiased tree) (hm : IsNamed m) (a : Artifact) :
    (g.generateFile tree m a).next.Unbiased tree ∧ g.SameMake (g.generateFile tree m a).next := by
  unfold Generator.generateFile
  cases a.warnings g.context m with
  | error f => exact ⟨h, .refl g⟩
  | ok warnings =>
      have hlearnt := h.learn hm
      dsimp only
      cases a.scope (g.learn m).context m with
      | error f => exact ⟨hlearnt, sameMake_learn g m⟩
      | ok scope =>
          obtain ⟨-, hlibrary, hplaces⟩ := Template.Library.unbiased_fill hlearnt.library
            ((g.learn m).templateName a.templateStem) scope
          exact ⟨⟨hlearnt.names, hlibrary⟩, rfl, rfl, hplaces⟩

theorem Unbiased.specify (h : g.Unbiased tree) (hm : IsNamed m) (kind : Datum) :
    (g.specify m kind).next.Unbiased tree ∧ g.SameMake (g.specify m kind).next := by
  unfold Generator.specify
  cases Artifact.ofKind g.component kind with
  | error f => exact ⟨h, .refl g⟩
  | ok a =>
      dsimp only
      cases a.scopeWarnings (g.learn m).context m <;>
        exact ⟨h.learn hm, sameMake_learn g m⟩

/-- One use of a generator, successful or not, makes no difference to what it is. -/
theorem Unbiased.afterUse (h : g.Unbiased tree) (use : Use) (hm : IsNamed use.model) :
    (g.afterUse tree use).Unbiased tree ∧ g.SameMake (g.afterUse tree use) := by
  cases use with
  | generate m options =>
      show (g.generate tree m options).next.Unbiased tree ∧
        g.SameMake (g.generate tree m options).next
      unfold Generator.generate
      cases Artifact.ofOptions g.component options with
      | error f => exact ⟨h, .refl g⟩
      | ok a => exact h.generateFile hm a
  | specify m kind => exact h.specify hm kind

/-! ### All uses -/

/-- Neither do any number of uses. -/
theorem unbiased_after (h : g.Unbiased tree) (uses : List Use)
    (hm : ∀ use ∈ uses, IsNamed use.model) :
    (g.after tree uses).Unbiased tree ∧ g.SameMake (g.after tree uses) := by
  induction uses generalizing g with
  | nil => exact ⟨h, .refl g⟩
  | cons use rest ih =>
      obtain ⟨hnext, hmake⟩ := h.afterUse use (hm use (List.mem_cons_self ..))
      obtain ⟨hlast, hmakeLast⟩ := ih hnext fun u hu => hm u (List.mem_cons_of_mem _ hu)
      exact ⟨hlast, hmake.trans hmakeLast⟩

/-! ### What generators give -/

/-- Generators of the same make give the same file, and find the same odd about the model. -/
theorem SameMake.generateFile_eq (hmake : g.SameMake g') (h : g.Unbiased tree)
    (h' : g'.Unbiased tree) (hm : IsNamed m) (a : Artifact) :
    (g'.generateFile tree m a).text = (g.generateFile tree m a).text ∧
      (g'.generateFile tree m a).warnings = (g.generateFile tree m a).warnings := by
  have hagrees : Agrees m g.context g'.context :=
    h.names.agrees h'.names hmake.settings hm
  have hlearnt : Agrees m (g.learn m).context (g'.learn m).context :=
    (h.learn hm).names.agrees (h'.learn hm).names hmake.settings hm
  have htemplate : (g'.learn m).templateName a.templateStem =
      (g.learn m).templateName a.templateStem := by
    have hsettings : (g'.learn m).settings = (g.learn m).settings := hmake.settings
    unfold templateName
    rw [hsettings]
  unfold Generator.generateFile
  rw [hagrees.warnings]
  cases a.warnings g.context m with
  | error f => exact ⟨rfl, rfl⟩
  | ok warnings =>
      dsimp only
      rw [hlearnt.scope]
      cases a.scope (g.learn m).context m with
      | error f => exact ⟨rfl, rfl⟩
      | ok scope =>
          refine ⟨?_, rfl⟩
          have hfill := (Template.Library.unbiased_fill (h.learn hm).library
            ((g.learn m).templateName a.templateStem) scope).1
          have hfill' := (Template.Library.unbiased_fill (h'.learn hm).library
            ((g.learn m).templateName a.templateStem) scope).1
          have hplaces : (g.learn m).library.SamePlaces (g'.learn m).library := hmake.places
          rw [hplaces.lookUp_eq] at hfill'
          show (((g'.learn m).library.fill tree _ scope).1).map tidy =
            (((g.learn m).library.fill tree _ scope).1).map tidy
          rw [htemplate, hfill, hfill']

theorem SameMake.generated_eq (hmake : g.SameMake g') (h : g.Unbiased tree)
    (h' : g'.Unbiased tree) (hm : IsNamed m) (options : Datum) :
    (g'.generate tree m options).text = (g.generate tree m options).text ∧
      (g'.generate tree m options).warnings = (g.generate tree m options).warnings := by
  unfold Generator.generate
  rw [hmake.component]
  cases Artifact.ofOptions g.component options with
  | error f => exact ⟨rfl, rfl⟩
  | ok a => exact hmake.generateFile_eq h h' hm a

/-- Generators of the same make fill templates with the same. -/
theorem SameMake.specify_eq (hmake : g.SameMake g') (h : g.Unbiased tree)
    (h' : g'.Unbiased tree) (hm : IsNamed m) (kind : Datum) :
    (g'.specify m kind).scope = (g.specify m kind).scope ∧
      (g'.specify m kind).warnings = (g.specify m kind).warnings := by
  have hlearnt : Agrees m (g.learn m).context (g'.learn m).context :=
    (h.learn hm).names.agrees (h'.learn hm).names hmake.settings hm
  unfold Generator.specify
  rw [hmake.component]
  cases Artifact.ofKind g.component kind with
  | error f => exact ⟨rfl, rfl⟩
  | ok a =>
      dsimp only
      rw [hlearnt.scopeWarnings, hlearnt.scope]
      cases a.scopeWarnings (g.learn m).context m with
      | error f => exact ⟨rfl, rfl⟩
      | ok warnings => exact ⟨rfl, rfl⟩

/-! ### What generators keep -/

section

variable {P : Generator → Prop} (hlearn : ∀ {g : Generator} (m : Model), P g → P (g.learn m))
  (hfill : ∀ {g : Generator} (tree : FileTree) (name : String) (scope : Template.Scope),
    P g → P { g with library := (g.library.fill tree name scope).2 })
include hlearn hfill

/-- All that generating a file does to a generator is to ask for names and to fill a template. -/
theorem next_generateFile_of_steps (h : P g) (tree : FileTree) (m : Model) (a : Artifact) :
    P (g.generateFile tree m a).next := by
  unfold Generator.generateFile
  cases a.warnings g.context m with
  | error f => exact h
  | ok warnings =>
      dsimp only
      cases a.scope (g.learn m).context m with
      | error f => exact hlearn m h
      | ok scope => exact hfill tree _ scope (hlearn m h)

theorem afterUse_of_steps (h : P g) (tree : FileTree) (use : Use) : P (g.afterUse tree use) := by
  cases use with
  | generate m options =>
      show P (g.generate tree m options).next
      unfold Generator.generate
      cases Artifact.ofOptions g.component options with
      | error f => exact h
      | ok a => exact next_generateFile_of_steps hlearn hfill h tree m a
  | specify m kind =>
      show P (g.specify m kind).next
      unfold Generator.specify
      cases Artifact.ofKind g.component kind with
      | error f => exact h
      | ok a =>
          dsimp only
          cases a.scopeWarnings (g.learn m).context m <;> exact hlearn m h

/-- What names and templates do not change about a generator stays so, however often it is used. -/
theorem after_of_steps (h : P g) (tree : FileTree) (uses : List Use) :
    P (g.after tree uses) := by
  induction uses generalizing g with
  | nil => exact h
  | cons use rest ih => exact ih (afterUse_of_steps hlearn hfill h tree use)

end

/-- A generator of a component under settings, with names that were asked for. -/
structure IsFor (component : Component) (settings : Settings) (g : Generator) : Prop where
  component : g.component = component
  settings : g.settings = settings
  names : Learned g.names

theorem IsFor.learn {component : Component} {settings : Settings}
    (h : g.IsFor component settings) (m : Model) : (g.learn m).IsFor component settings :=
  ⟨h.component, h.settings, learned_learn h.names m⟩

theorem IsFor.context_eq {component : Component} {settings : Settings}
    (h : g.IsFor component settings) : g.context = ⟨settings, g.names⟩ := by
  rw [context, h.settings]

/-- The options decide which file is generated. -/
theorem IsFor.generate_of_options {component : Component} {settings : Settings}
    (h : g.IsFor component settings) {options : Datum} {a : Artifact}
    (ha : Artifact.ofOptions component options = .ok a) (tree : FileTree) (m : Model) :
    g.generate tree m options = g.generateFile tree m a := by
  unfold Generator.generate
  rw [h.component, ha]

/-- Use does not change what a generator is for. -/
theorem isFor_after {component : Component} {settings : Settings}
    (h : g.IsFor component settings) (tree : FileTree) (uses : List Use) :
    (g.after tree uses).IsFor component settings :=
  after_of_steps (P := IsFor component settings) (fun m h => h.learn m)
    (fun _ _ _ h => ⟨h.component, h.settings, h.names⟩) h tree uses

/-! ### New generators -/

/-- A generator that could be made can be made again from the same files, and is the same. -/
theorem exists_run_make {component : Component} {settings : Settings} {s s' made : Session}
    (h : (make component settings).run.run s = (.ok g, made)) (htree : s'.tree = s.tree) :
    ∃ made', (make component settings).run.run s' = (.ok g, made') := by
  have hfirst : ((make component settings).run.run s).1 = .ok g := congrArg Prod.fst h
  have hagain : ((make component settings).run.run s').1 = .ok g := by
    rw [Pipeline.run_make] at hfirst ⊢
    rwa [htree]
  exact ⟨_, run_of_fst hagain⟩

theorem isFor_make {component : Component} {settings : Settings} {s made : Session}
    (h : (make component settings).run.run s = (.ok g, made)) : g.IsFor component settings := by
  obtain ⟨library, hg⟩ := exists_library_make h
  exact ⟨by rw [hg], by rw [hg], learned_make h⟩

/-- A new generator keeps neither names nor templates. -/
theorem unbiased_make {component : Component} {settings : Settings} {s made : Session}
    (h : (make component settings).run.run s = (.ok g, made)) (tree : FileTree) :
    g.Unbiased tree := by
  refine ⟨?_, fun name o t hkept => ?_⟩
  · rw [names_make h]
    exact unbiased_new
  · have hrun : ((make component settings).run.run s).1 = .ok g := congrArg Prod.fst h
    rw [Pipeline.run_make] at hrun
    cases hoverrides : overrides settings.templates with
    | error f =>
        rw [hoverrides] at hrun
        cases hrun
    | ok directories =>
        rw [hoverrides] at hrun
        dsimp only at hrun
        cases hpresent : Pipeline.presentAmong s.tree directories with
        | error f =>
            rw [hpresent] at hrun
            cases hrun
        | ok present =>
            rw [hpresent] at hrun
            rw [← Except.ok.inj hrun] at hkept
            cases hkept

/-- **What a generator gives does not depend on its past.**  However often it was used before, for
whatever models whose columns are named by texts, and also if that failed: it generates the text
that a newly made generator with the same settings generates, with the same warnings, and fills
templates with the same. -/
theorem after_like_new {component : Component} {settings : Settings} {s s' made : Session}
    (h : (make component settings).run.run s = (.ok g, made)) (htree : s'.tree = s.tree)
    (uses : List Use) (huses : ∀ use ∈ uses, IsNamed use.model) (hm : IsNamed m)
    (options kind : Datum) :
    ∃ new made', (make component settings).run.run s' = (.ok new, made') ∧
      ((g.after s.tree uses).generate s.tree m options).text =
        (new.generate s.tree m options).text ∧
      ((g.after s.tree uses).generate s.tree m options).warnings =
        (new.generate s.tree m options).warnings ∧
      ((g.after s.tree uses).specify m kind).scope = (new.specify m kind).scope ∧
      ((g.after s.tree uses).specify m kind).warnings = (new.specify m kind).warnings := by
  obtain ⟨made', hnew⟩ := exists_run_make h htree
  have hunbiased := unbiased_make h s.tree
  obtain ⟨hafter, hmake⟩ := unbiased_after hunbiased uses huses
  obtain ⟨htext, hwarnings⟩ := hmake.generated_eq hunbiased hafter hm options
  obtain ⟨hscope, hodd⟩ := hmake.specify_eq hunbiased hafter hm kind
  exact ⟨g, made', hnew, htext, hwarnings, hscope, hodd⟩

/-- A model with a column that is named like its class, and one that is named like a keyword. -/
def commentModel : Model :=
  let column (name : String) : Attribute := { (default : Attribute) with name := .text name }
  { (default : Model) with
    className := "comment"
    table := .text "comments"
    primaryKey := .text "id"
    attributes := ["id", "comment", "class"].map fun s => (.text s, column s) }

/-- The form of a model, after its list of an unknown kind was asked for in vain and its card was
generated. -/
theorem after_like_new_comment :
    let s := Session.start .empty [] Web.unreachable
    let uses := [.specify commentModel (.text "grid"),
      .generate { commentModel with className := "class" } (.object [("type", .text "card")])]
    ∃ g made, (make .widget .standard).run.run s = (.ok g, made) ∧
      ∃ new made', (make .widget .standard).run.run s = (.ok new, made') ∧
        ((g.after s.tree uses).generate s.tree commentModel .null).text =
          (new.generate s.tree commentModel .null).text ∧
        ((g.after s.tree uses).generate s.tree commentModel .null).warnings =
          (new.generate s.tree commentModel .null).warnings ∧
        ((g.after s.tree uses).specify commentModel (.text "form")).scope =
          (new.specify commentModel (.text "form")).scope ∧
        ((g.after s.tree uses).specify commentModel (.text "form")).warnings =
          (new.specify commentModel (.text "form")).warnings := by
  intro s uses
  have hnamed : IsNamed commentModel := by
    intro name a ha
    obtain ⟨t, -, ht⟩ := List.mem_map.1 ha
    exact ⟨t, by rw [← (Prod.mk.inj ht).2]⟩
  refine ⟨_, _, rfl, after_like_new rfl rfl uses ?_ hnamed .null (.text "form")⟩
  intro use huse
  rcases List.mem_pair.1 huse with rfl | rfl
  · exact hnamed
  · exact hnamed

end Generator

end Dart

end DartScaffold
