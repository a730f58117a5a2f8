/-
**Generated code has well nested brackets.**

Each built-in template can be looked through for the shapes of what fills it, and behind none of
them a bracket is open.  A generator without templates of its own finds the built-in ones, however
often it was used before.  So whatever it generates is well nested, if the texts of the settings and
of the model are; and it generates everything but a data class whose declared columns cannot be put
in order, and a transport whose settings are of the wrong kinds.

Main definitions:

* `Dart.Artifact.template` — the built-in template of a file;
* `Template.Library.IsBuiltin`, `Dart.Generator.UsesBuiltin` — a library of the built-in templates
  only, and a generator that has one.

Main results:

* `Dart.closes_template` — **behind no built-in template is a bracket open**;
* `Dart.Generator.usesBuiltin_after` — a generator keeps to the built-in templates;
* `Dart.Generator.generate_wellNested` — **generated code is well nested**.
-/

import Mathlib
import DartScaffold.Proofs.Generation.FilledShapes
import DartScaffold.Proofs.Generation.Independence

set_option relaxedAutoImplicit false
set_option autoImplicit false

namespace DartScaffold

open Text (WellNested)

/-! ### The built-in templates -/

namespace Dart

/-- The built-in template of a file. -/
def Artifact.template : Artifact → Template
  | .dataClass => dataClassTemplate
  | .service => serviceTemplate
  | .widget .form => formTemplate
  | .widget .list => itemsTemplate
  | .widget .card => cardTemplate
  | .screen .list => listScreenTemplate
  | .screen .detail => detailScreenTemplate
  | .screen .create => createScreenTemplate
  | .screen .edit => editScreenTemplate
  | .transport => transportTemplate

/-- The name of the built-in template of a file. -/
def Artifact.templateName (a : Artifact) : String := a.templateStem ++ ".dart.j2"

/-- **Behind no built-in template is a bracket open**, whatever the branches and however long the
lists. -/
theorem closes_template (a : Artifact) : Template.closes a.known a.template = true := by
  cases a with
  | dataClass => decide +kernel
  | service => decide +kernel
  | widget kind => cases kind <;> decide +kernel
  | screen kind => cases kind <;> decide +kernel
  | transport => decide +kernel

theorem nameParts?_templateName (a : Artifact) :
    Template.Library.nameParts? a.templateName = some [a.templateName] := by
  cases a with
  | dataClass => decide +kernel
  | service => decide +kernel
  | widget kind => cases kind <;> decide +kernel
  | screen kind => cases kind <;> decide +kernel
  | transport => decide +kernel

theorem lookup_builtin (a : Artifact) : builtin.lookup a.templateName = some a.template := by
  cases a with
  | dataClass => rfl
  | service => rfl
  | widget kind => cases kind <;> rfl
  | screen kind => cases kind <;> rfl
  | transport => rfl

end Dart

namespace Template.Library

variable {l : Library} {tree tree' : FileTree} {name : String}

/-- A library of the built-in templates only. -/
structure IsBuiltin (l : Library) : Prop where
  memory : l.memory = []
  directories : l.directories = []
  builtin : l.builtin = Dart.builtin
  unbiased : ∀ tree, l.Unbiased tree

/-- Without directories the files make no difference. -/
theorem origin?_of_directories_eq_nil (h : l.directories = []) (tree tree' : FileTree)
    (name : String) : l.origin? tree name = l.origin? tree' name := by
  unfold origin?
  rw [h]
  rfl

theorem Unbiased.of_directories_eq_nil (h : l.Unbiased tree) (hnone : l.directories = [])
    (tree' : FileTree) : l.Unbiased tree' := by
  intro name o t hkept
  obtain ⟨horigin, ht⟩ := h name o t hkept
  rw [origin?_of_directories_eq_nil hnone tree' tree name]
  exact ⟨horigin, ht⟩

theorem IsBuiltin.lookUp_eq (h : l.IsBuiltin) (tree : FileTree) (a : Dart.Artifact) :
    l.lookUp tree a.templateName = .ok a.template := by
  have hparts := Dart.nameParts?_templateName a
  have hjoin : Text.join "/" [a.templateName] = a.templateName := String.intercalate_singleton
  have hfound : l.builtin.lookup (Text.join "/" [a.templateName]) = some a.template := by
    rw [h.builtin, hjoin, Dart.lookup_builtin]
  have horigin : l.origin? tree a.templateName = some .builtin := by
    unfold origin?
    rw [h.memory, hparts, h.directories]
    show (l.builtin.lookup (Text.join "/" [a.templateName])).map _ = _
    rw [hfound]
    rfl
  unfold lookUp
  rw [horigin]
  dsimp only [templateAt]
  rw [hparts, Option.bind_some, hfound]

theorem IsBuiltin.fill (h : l.IsBuiltin) (tree : FileTree) (name : String) (scope : Scope) :
    (l.fill tree name scope).2.IsBuiltin := by
  obtain ⟨-, hunbiased, hplaces⟩ := unbiased_fill (h.unbiased tree) name scope
  have hdirectories := hplaces.directories.trans h.directories
  exact ⟨hplaces.memory.trans h.memory, hdirectories, hplaces.builtin.trans h.builtin,
    fun tree' => hunbiased.of_directories_eq_nil hdirectories tree'⟩

end Template.Library

namespace Dart

namespace Generator

variable {component : Component} {settings : Settings} {g : Generator} {m : Model}

/-- A generator of a component that has the built-in templates only. -/
structure UsesBuiltin (component : Component) (settings : Settings) (g : Generator) : Prop where
  component : g.component = component
  settings : g.settings = settings
  names : Learned g.names
  library : g.library.IsBuiltin

theorem UsesBuiltin.learn (h : g.UsesBuiltin component settings) (m : Model) :
    (g.learn m).UsesBuiltin component settings :=
  ⟨h.component, h.settings, learned_learn h.names m, h.library⟩

/-- A new generator without directories of templates has the built-in ones only. -/
theorem usesBuiltin_make {s made : Session}
    (hmake : (make component settings).run.run s = (.ok g, made))
    (hpath : settings.templates.path.truthy = false) : g.UsesBuiltin component settings := by
  have hrun : ((make component settings).run.run s).1 = .ok g := congrArg Prod.fst hmake
  have hnone : overrides settings.templates = .ok [] := by
    unfold overrides
    rw [hpath]
    rfl
  have hunbiased := unbiased_make hmake
  rw [Pipeline.run_make, hnone] at hrun
  obtain rfl := Except.ok.inj hrun
  exact ⟨rfl, rfl, .new, rfl, rfl, rfl, fun tree => (hunbiased tree).library⟩

/-! ### Generating -/

/-- **A generator keeps to the built-in templates**, however often it is used. -/
theorem usesBuiltin_after (h : g.UsesBuiltin component settings) (tree : FileTree)
    (uses : List Use) : (g.after tree uses).UsesBuiltin component settings :=
  after_of_steps (P := UsesBuiltin component settings) (fun m h => h.learn m)
    (fun tree name scope h => ⟨h.component, h.settings, h.names, h.library.fill tree name scope⟩)
    h tree uses

/-- The name that a built-in template is looked for under. -/
theorem UsesBuiltin.templateName_eq (h : g.UsesBuiltin component settings)
    (hextension : settings.templates.extension = ".dart.j2") (a : Artifact) :
    g.templateName a.templateStem = a.templateName := by
  unfold Generator.templateName
  rw [h.settings, hextension]
  rfl

/-- What fills a built-in template makes it a well nested text. -/
theorem UsesBuiltin.exists_text (h : g.UsesBuiltin component settings)
    (hextension : settings.templates.extension = ".dart.j2") (hs : settings.Nested)
    (hm : m.Nested) (tree : FileTree) {a : Artifact} {scope : Template.Scope}
    (hscope : a.scope g.context m = .ok scope) :
    ∃ text, (g.library.fill tree (g.templateName a.templateStem) scope).1 = .ok text ∧
      WellNested text := by
  have hsettings : g.settings.Nested := by
    rw [h.settings]
    exact hs
  have hsuits : Template.Suits a.known scope := suits_scope h.names hsettings hm hscope
  obtain ⟨text, htext, hnested⟩ := Template.textOf_closes hsuits (closes_template a)
    (lookup_self_scope hscope) (lookup_self_known a) (some a.templateName)
  refine ⟨text, ?_, hnested⟩
  have hfill := (Template.Library.unbiased_fill (h.library.unbiased tree) a.templateName scope).1
  rw [h.library.lookUp_eq tree a] at hfill
  dsimp only at hfill
  rw [h.templateName_eq hextension, hfill, htext]
  rfl

/-- A file is generated with well nested brackets, or the description of what fills its template
fails. -/
theorem UsesBuiltin.generateFile_wellNested (h : g.UsesBuiltin component settings)
    (hextension : settings.templates.extension = ".dart.j2") (hs : settings.Nested)
    (hm : m.Nested) (tree : FileTree) (a : Artifact) :
    (∃ text, (g.generateFile tree m a).text = .ok text ∧ WellNested text) ∨
      ∃ misuse, (g.generateFile tree m a).text = .error (.misuse misuse) ∧
        (a.warnings g.context m = .error misuse ∨
          a.scope (g.learn m).context m = .error misuse) := by
  unfold Generator.generateFile
  cases hwarnings : a.warnings g.context m with
  | error misuse => exact .inr ⟨misuse, rfl, .inl rfl⟩
  | ok warnings =>
      dsimp only
      cases hscope : a.scope (g.learn m).context m with
      | error misuse => exact .inr ⟨misuse, rfl, .inr rfl⟩
      | ok scope =>
          obtain ⟨text, htext, hnested⟩ := (h.learn m).exists_text hextension hs hm tree hscope
          refine .inl ⟨tidy text, ?_, wellNested_tidy hnested⟩
          dsimp only
          rw [htext]
          rfl

/-- Only for a data class there may be something wrong with the model. -/
theorem problems_of_warnings {c : Context} {a : Artifact} {misuse : Misuse}
    (h : a.warnings c m = .error misuse) : a = .dataClass ∧ Context.problems m = .error misuse := by
  cases a with
  | dataClass => exact ⟨rfl, h⟩
  | service | widget | screen | transport => cases h

/-- Only for the transport there may be something wrong with the settings. -/
theorem transport_of_scope {c : Context} {a : Artifact} {misuse : Misuse}
    (h : a.scope c m = .error misuse) :
    a = .transport ∧ Dart.transport ⟨c.settings, sanitizer.names⟩ = .error misuse := by
  cases a with
  | transport =>
      refine ⟨rfl, ?_⟩
      have hscope : Artifact.transport.scope c m =
          (Dart.transport c).map fun t => [("api", t.value)] := by
        rw [Artifact.scope]
        cases Dart.transport c <;> rfl
      rw [hscope] at h
      cases ht : Dart.transport c with
      | error f =>
          rw [ht] at h
          rw [← Except.error.inj h]
          exact ht
      | ok t =>
          rw [ht] at h
          cases h
  | dataClass | service | widget | screen => cases h

/-- **Generated code is well nested.**  The names of columns and of the table, the methods and paths
of further routes, and what the settings put into files have no brackets, or well nested ones.  Then
a generator with the built-in templates, however often and for whatever models it was used before,
generates every file of every component with well nested brackets.  Only a data class may fail, if
what the model declares cannot be put in order, and the transport, if a setting of it is of a wrong
kind. -/
theorem generate_wellNested {s made : Session}
    (hmake : (make component settings).run.run s = (.ok g, made))
    (hpath : settings.templates.path.truthy = false)
    (hextension : settings.templates.extension = ".dart.j2") (hs : settings.Nested)
    (before : FileTree) (uses : List Use) (hm : m.Nested) (tree : FileTree) {options : Datum}
    {a : Artifact} (ha : Artifact.ofOptions component options = .ok a) :
    (∃ text, ((g.after before uses).generate tree m options).text = .ok text ∧ WellNested text) ∨
      ∃ misuse, ((g.after before uses).generate tree m options).text = .error (.misuse misuse) ∧
        (a = .dataClass ∧ Context.problems m = .error misuse ∨
          a = .transport ∧ Dart.transport ⟨settings, sanitizer.names⟩ = .error misuse) := by
  have hafter := usesBuiltin_after (usesBuiltin_make hmake hpath) before uses
  have hfile : (g.after before uses).generate tree m options =
      (g.after before uses).generateFile tree m a := by
    unfold Generator.generate
    rw [hafter.component, ha]
  rw [hfile]
  refine (hafter.generateFile_wellNested hextension hs hm tree a).imp_right ?_
  rintro ⟨misuse, htext, hfault⟩
  refine ⟨misuse, htext, hfault.imp problems_of_warnings fun hscope => ?_⟩
  obtain ⟨htransport, hmisuse⟩ := transport_of_scope hscope
  have hsettings : ((g.after before uses).learn m).context.settings = settings := hafter.settings
  rw [hsettings] at hmisuse
  exact ⟨htransport, hmisuse⟩

/-- A model without columns, and with a further route that has braces around a placeholder. -/
def teamModel : Model :=
  let release : Route :=
    { (default : Route) with
      uri := "api/teams/\x7bteam\x7d/\x7b\x7bdraft?\x7dx\x7d"
      primary := "LOCK"
      endpoint := .other "release)"
      parameters := [⟨"team", true, .string⟩] }
  { (default : Model) with className := "Team (old", table := .text "teams", routes := [release] }

/-- The service of a model, after its description was asked for. -/
theorem generate_wellNested_team :
    let s := Session.start .empty [] Web.unreachable
    Settings.standard.templates.path.truthy = false ∧
      Settings.standard.templates.extension = ".dart.j2" ∧ Settings.standard.Nested ∧
      teamModel.Nested ∧ Artifact.ofOptions .service .null = .ok .service ∧
      ∃ g made, (make .service .standard).run.run s = (.ok g, made) ∧
        ∃ text, ((g.after .empty [.specify teamModel .null]).generate .empty teamModel .null).text =
          .ok text ∧ WellNested text := by
  intro s
  have hnested : teamModel.Nested := by
    refine ⟨?_, by decide, ?_⟩
    · intro column hcolumn
      cases hcolumn
    · intro r hr
      obtain rfl := List.mem_singleton.1 hr
      exact ⟨by decide +kernel, by decide +kernel⟩
  refine ⟨rfl, rfl, Settings.nested_standard, hnested, rfl, _, _, rfl, ?_⟩
  have htext := generate_wellNested (s := s) rfl rfl rfl Settings.nested_standard .empty
    [.specify teamModel .null] hnested .empty (rfl : Artifact.ofOptions .service .null = _)
  refine htext.resolve_right ?_
  rintro ⟨misuse, -, ⟨hfile, -⟩ | ⟨hfile, -⟩⟩
  · cases hfile
  · cases hfile

end Generator

end Dart

end DartScaffold
