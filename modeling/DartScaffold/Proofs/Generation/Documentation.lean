/-
**The switch for documentation touches comments only.**

Two generators differ in whether documentation is wanted, and are used for the same models.  They
give the same names, and they fill the same templates with what is the same but for comments.  So
the files that they give differ in comments only: leaving out the comments of one of them leads to
the other one.  The name of a table is written in a comment and nowhere else, so it makes no
difference to the rest of a file.

Where a folder of the settings has a line break, what follows the break in an import may look like a
comment, and is left out with the comments although it is written either way.

Main definitions:

* `Model.withTable` — a model with another table;
* `Dart.Generator.Differ` — two generators that differ in whether documentation is wanted.

Main results:

* `Dart.isFollowed_template` — **every built-in template is followed**;
* `Dart.Generator.Differ.after` — generators differ in nothing else, however often they are used;
* `Dart.Generator.generate_dropComments` — **their files differ in comments only**, whatever the
  table is called;
* `Dart.Generator.text_form_ne_dropComments` — in a form they do not, if an import looks like a
  comment.
-/

import DartScaffold.Proofs.Generation.DocumentedParts
import DartScaffold.Proofs.Generation.QuotedKeys

set_option relaxedAutoImplicit false
set_option autoImplicit false

namespace DartScaffold

/-- A model with another table. -/
def Model.withTable (m : Model) (table : Datum) : Model := { m with table := table }

namespace Dart

/-- **Every built-in template is followed**: whatever it is filled with, no line of it is a comment,
and each comment stands in front of something visible. -/
theorem isFollowed_template {a : Artifact} (ha : a ≠ .transport) :
    Template.isFollowed a.pairings a.template = true := by
  cases a with
  | dataClass => decide +kernel
  | service => decide +kernel
  | widget kind => cases kind <;> decide +kernel
  | screen kind => cases kind <;> decide +kernel
  | transport => exact absurd rfl ha

/-! ### What does not depend on documentation -/

section

variable (c : Context) (m : Model) (off on table : Datum) (a : Artifact)

theorem nameRequests_documented :
    nameRequests (c.documented on) m = nameRequests (c.documented off) m := rfl

theorem warnings_documented : a.warnings (c.documented on) m = a.warnings (c.documented off) m := by
  cases a <;> rfl

/-- The name of the table does not decide whether there is something wrong with a model. -/
theorem problems_table (misuse : Misuse) :
    Context.problems (m.withTable table) = .error misuse ↔
      Context.problems m = .error misuse := by
  unfold Context.problems
  dsimp only [Model.withTable]
  cases Datum.ordered (Datum.distinct (m.fillable ++ m.hidden ++ Entries.keys m.casts)) with
  | error f => rfl
  | ok declared => exact iff_of_false (fun h => by cases h) (fun h => by cases h)

variable {off}

/-- Without documentation the name of the table is written nowhere. -/
theorem scope_table (hoff : off.truthy = false) :
    a.scope (c.documented off) (m.withTable table) = a.scope (c.documented off) m := by
  have hnone := Context.comment_of_not_wanted (c := c.documented off) hoff
  cases a with
  | dataClass =>
      show Except.ok [("model", (dataClass (c.documented off) (m.withTable table)).value)] =
        Except.ok [("model", (dataClass (c.documented off) m).value)]
      simp only [dataClass, hnone]
      rfl
  | service | widget | screen | transport => rfl

end

namespace Generator

/-! ### Generators that differ -/

/-- Generating a file makes a generator ask for names, unless something is wrong with the model. -/
theorem names_generateFile (g : Generator) (tree : FileTree) (m : Model) (a : Artifact) :
    (g.generateFile tree m a).next.names =
      match a.warnings g.context m with
      | .error _ => g.names
      | .ok _ => (g.learn m).names := by
  unfold Generator.generateFile
  cases a.warnings g.context m with
  | error f => rfl
  | ok warnings =>
      dsimp only
      cases a.scope (g.learn m).context m <;> rfl

theorem names_specify (g : Generator) (m : Model) (kind : Datum) :
    (g.specify m kind).next.names =
      match Artifact.ofKind g.component kind with
      | .error _ => g.names
      | .ok _ => (g.learn m).names := by
  unfold Generator.specify
  cases Artifact.ofKind g.component kind with
  | error f => rfl
  | ok a =>
      dsimp only
      cases a.scopeWarnings (g.learn m).context m <;> rfl

/-- Two generators of a component whose settings differ in whether documentation is wanted.  They
have the same names. -/
structure Differ (component : Component) (settings : Settings) (off on : Datum)
    (quiet loud : Generator) : Prop where
  isForQuiet : quiet.IsFor component (settings.documented off)
  isForLoud : loud.IsFor component (settings.documented on)
  names : loud.names = quiet.names

variable {component : Component} {settings : Settings} {off on table : Datum}
  {quiet loud : Generator} {tree : FileTree} {m : Model}

namespace Differ

/-- What the files of both are generated from. -/
theorem exists_context (h : Differ component settings off on quiet loud) :
    ∃ c : Context, c.settings = settings ∧ Learned c.names ∧
      quiet.context = c.documented off ∧ loud.context = c.documented on := by
  refine ⟨⟨settings, quiet.names⟩, rfl, h.isForQuiet.names, h.isForQuiet.context_eq, ?_⟩
  rw [h.isForLoud.context_eq, h.names]
  rfl

theorem learn (h : Differ component settings off on quiet loud) (m : Model) :
    Differ component settings off on (quiet.learn m) (loud.learn m) := by
  refine ⟨h.isForQuiet.learn m, h.isForLoud.learn m, ?_⟩
  obtain ⟨c, -, -, hquiet, hloud⟩ := h.exists_context
  show (nameRequests loud.context m).foldl _ loud.names =
    (nameRequests quiet.context m).foldl _ quiet.names
  rw [hquiet, hloud, nameRequests_documented c m off on, h.names]

theorem warnings (h : Differ component settings off on quiet loud) (m : Model) (a : Artifact) :
    a.warnings loud.context m = a.warnings quiet.context m := by
  obtain ⟨c, -, -, hquiet, hloud⟩ := h.exists_context
  rw [hquiet, hloud, warnings_documented c m off on]

/-- One use, successful or not, leads to the same names. -/
theorem afterUse (h : Differ component settings off on quiet loud) (tree : FileTree) (use : Use) :
    Differ component settings off on (quiet.afterUse tree use) (loud.afterUse tree use) := by
  refine ⟨isFor_after h.isForQuiet tree [use], isFor_after h.isForLoud tree [use], ?_⟩
  cases use with
  | generate m options =>
      show (loud.generate tree m options).next.names = (quiet.generate tree m options).next.names
      unfold Generator.generate
      rw [h.isForQuiet.component, h.isForLoud.component]
      cases Artifact.ofOptions component options with
      | error f => exact h.names
      | ok a =>
          show (loud.generateFile tree m a).next.names = (quiet.generateFile tree m a).next.names
          rw [names_generateFile, names_generateFile, h.warnings, h.names, (h.learn m).names]
  | specify m kind =>
      show (loud.specify m kind).next.names = (quiet.specify m kind).next.names
      rw [names_specify, names_specify, h.isForQuiet.component, h.isForLoud.component, h.names,
        (h.learn m).names]

/-- **Generators differ in nothing else, however often they are used.** -/
theorem after (h : Differ component settings off on quiet loud) (tree : FileTree)
    (uses : List Use) :
    Differ component settings off on (quiet.after tree uses) (loud.after tree uses) := by
  induction uses generalizing quiet loud with
  | nil => exact h
  | cons use rest ih => exact ih (h.afterUse tree use)

/-- New generators have no names yet. -/
theorem of_make {s s' made made' : Session}
    (hquiet : (make component (settings.documented off)).run.run s = (.ok quiet, made))
    (hloud : (make component (settings.documented on)).run.run s' = (.ok loud, made')) :
    Differ component settings off on quiet loud :=
  ⟨isFor_make hquiet, isFor_make hloud, (names_make hloud).trans (names_make hquiet).symm⟩

/-! ### Files -/

/-- **The files differ in comments only**, unless what the model declares cannot be put in order. -/
theorem generateFile (h : Differ component settings off on quiet loud)
    (hoff : off.truthy = false) {a : Artifact} (hi : a.ClearImports settings m) (hm : m.OneLined)
    (ha : a ≠ .transport) (hquiet : quiet.templateOf tree a = .ok a.template)
    (hloud : loud.templateOf tree a = .ok a.template) :
    (∃ text, (loud.generateFile tree m a).text = .ok text ∧
        (quiet.generateFile tree m a).text = .ok (dropComments text)) ∨
      ∃ misuse, a.warnings quiet.context m = .error misuse ∧
        (loud.generateFile tree m a).text = .error (.misuse misuse) ∧
        (quiet.generateFile tree m a).text = .error (.misuse misuse) := by
  have hwarnings := h.warnings m a
  unfold Generator.generateFile
  rw [hwarnings]
  cases hodd : a.warnings quiet.context m with
  | error misuse => exact .inr ⟨misuse, rfl, rfl, rfl⟩
  | ok warnings =>
      left
      obtain ⟨c, hc, hnames, hcontext, hcontext'⟩ := (h.learn m).exists_context
      obtain ⟨scope, scope', hscope, hscope', hresembles⟩ :=
        resembles_scope hoff hnames (hc ▸ hi) hm ha on
      obtain ⟨s, s', htext, htext', hdocumented⟩ :=
        Template.textOf_isFollowed hresembles (isFollowed_template ha) (lookup_self_scope hscope)
          (lookup_self_scope hscope') (lookup_self_pairings a)
          (some (quiet.templateName a.templateStem))
      have hname : loud.templateName a.templateStem = quiet.templateName a.templateStem := by
        rw [templateName, templateName, h.isForQuiet.settings, h.isForLoud.settings]
        rfl
      dsimp only
      rw [hcontext, hcontext', hscope, hscope']
      show ∃ text,
        ((loud.library.fill tree (loud.templateName a.templateStem) scope').1).map tidy = .ok text ∧
        ((quiet.library.fill tree (quiet.templateName a.templateStem) scope).1).map tidy =
          .ok (dropComments text)
      rw [fill_of_templateOf hloud, fill_of_templateOf hquiet, hname, htext, htext']
      refine ⟨tidy s', rfl, ?_⟩
      rw [dropComments_tidy hdocumented]
      rfl

end Differ

/-- Without documentation the name of the table makes no difference. -/
theorem text_generateFile_table (h : quiet.IsFor component (settings.documented off))
    (hoff : off.truthy = false) (table : Datum) (tree : FileTree) (m : Model) (a : Artifact) :
    (quiet.generateFile tree (m.withTable table) a).text =
      (quiet.generateFile tree m a).text := by
  have hlearnt : (quiet.learn m).context =
      (⟨settings, (quiet.learn m).names⟩ : Context).documented off := (h.learn m).context_eq
  have hlearn : quiet.learn (m.withTable table) = quiet.learn m := rfl
  have hodd : ∀ misuse, a.warnings quiet.context (m.withTable table) = .error misuse ↔
      a.warnings quiet.context m = .error misuse := by
    intro misuse
    cases a with
    | dataClass => exact problems_table m table misuse
    | service | widget | screen | transport => rfl
  have hscope : a.scope (quiet.learn m).context (m.withTable table) =
      a.scope (quiet.learn m).context m := by
    rw [hlearnt, scope_table _ _ _ _ hoff]
  unfold Generator.generateFile
  cases hw : a.warnings quiet.context m with
  | error misuse => rw [(hodd misuse).2 hw]
  | ok warnings =>
      cases hw' : a.warnings quiet.context (m.withTable table) with
      | error misuse =>
          rw [(hodd misuse).1 hw'] at hw
          cases hw
      | ok warnings' =>
          dsimp only
          rw [hlearn, hscope]
          cases a.scope (quiet.learn m).context m <;> rfl

/-- **The switch for documentation touches comments only.**  Two generators of a component are made
with settings that differ in whether documentation is wanted, are used for the same models, and find
the built-in template of a file.  The names of the columns and the paths of the further routes have
no line break, and no line of an import looks like a comment.  Then the one without documentation
gives the same text whatever the table is called, and this is the text that the other one gives, but
for the comments.  Only a data class may fail, and in both then, if what the model declares cannot
be put in order. -/
theorem generate_dropComments {s s' made made' : Session}
    (hquiet : (make component (settings.documented off)).run.run s = (.ok quiet, made))
    (hloud : (make component (settings.documented on)).run.run s' = (.ok loud, made'))
    (hoff : off.truthy = false) (before : FileTree) (uses : List Use) {options : Datum}
    {a : Artifact} (ha : Artifact.ofOptions component options = .ok a) (hfile : a ≠ .transport)
    (hi : a.ClearImports settings m) (hm : m.OneLined)
    (htemplate : (quiet.after before uses).templateOf tree a = .ok a.template)
    (htemplate' : (loud.after before uses).templateOf tree a = .ok a.template) :
    (∃ code, ∀ table,
        ((quiet.after before uses).generate tree (m.withTable table) options).text =
          .ok code ∧
        ∃ text, ((loud.after before uses).generate tree (m.withTable table) options).text =
          .ok text ∧ dropComments text = code) ∨
      a = .dataClass ∧ ∃ misuse, Context.problems m = .error misuse ∧ ∀ table,
        ((quiet.after before uses).generate tree (m.withTable table) options).text =
          .error (.misuse misuse) ∧
        ((loud.after before uses).generate tree (m.withTable table) options).text =
          .error (.misuse misuse) := by
  have hdiffer := (Differ.of_make hquiet hloud).after before uses
  simp only [hdiffer.isForQuiet.generate_of_options ha,
    hdiffer.isForLoud.generate_of_options ha]
  have htable := fun table : Datum =>
    text_generateFile_table hdiffer.isForQuiet hoff table tree m a
  have hfiles := fun table : Datum => hdiffer.generateFile (m := m.withTable table) hoff
    (show a.ClearImports settings (m.withTable table) by cases a <;> exact hi)
    ⟨hm.columns, hm.routes⟩ hfile htemplate htemplate'
  cases hcode : ((quiet.after before uses).generateFile tree m a).text with
  | ok code =>
      refine .inl ⟨code, fun table => ⟨(htable table).trans hcode, ?_⟩⟩
      have hquiet := (htable table).trans hcode
      rcases hfiles table with ⟨text, hloud, hdropped⟩ | ⟨misuse, -, -, hfailed⟩
      · rw [hdropped] at hquiet
        exact ⟨text, hloud, Except.ok.inj hquiet⟩
      · rw [hfailed] at hquiet
        cases hquiet
  | error f =>
      have hfailures : ∀ table, ∃ misuse, f = .misuse misuse ∧
          a.warnings (quiet.after before uses).context (m.withTable table) = .error misuse ∧
          ((loud.after before uses).generateFile tree (m.withTable table) a).text =
            .error (.misuse misuse) := by
        intro table
        have hquiet := (htable table).trans hcode
        rcases hfiles table with ⟨text, -, hdropped⟩ | ⟨misuse, hodd, hloud, hfailed⟩
        · rw [hdropped] at hquiet
          cases hquiet
        · rw [hfailed] at hquiet
          exact ⟨misuse, (Except.error.inj hquiet).symm, hodd, hloud⟩
      obtain ⟨misuse, rfl, hodd, -⟩ := hfailures m.table
      obtain ⟨hclass, hproblems⟩ := problems_of_warnings hodd
      refine .inr ⟨hclass, misuse, hproblems, fun table => ⟨(htable table).trans hcode, ?_⟩⟩
      obtain ⟨misuse', hmisuse, -, hloud⟩ := hfailures table
      rw [hmisuse]
      exact hloud

/-- A model whose table has a line break in its name. -/
def noteModel : Model :=
  { (default : Model) with
    className := "Note", table := .text "notes\nvoid main() \x7b\x7d"
    attributes := [(.text "title", ⟨.text "title", .string, .text "", false, .null⟩)] }

theorem oneLined_noteModel : noteModel.OneLined := by
  refine ⟨fun column hcolumn => ?_, fun r hr => ?_⟩
  · obtain rfl := List.mem_singleton.1 hcolumn
    decide
  · cases hr

/-- The data class of a model, after its description was asked for: its table is not named without
documentation. -/
theorem generate_dropComments_note :
    let s := Session.start .empty [] Web.unreachable
    let silent := Settings.standard.documented (.bool false)
    let spoken := Settings.standard.documented (.bool true)
    Artifact.ofOptions .model .null = .ok .dataClass ∧
      Artifact.dataClass.ClearImports .standard noteModel ∧ noteModel.OneLined ∧
      ∃ quiet loud made made', (make .model silent).run.run s = (.ok quiet, made) ∧
        (make .model spoken).run.run s = (.ok loud, made') ∧
        let used := quiet.after .empty [.specify noteModel .null]
        let used' := loud.after .empty [.specify noteModel .null]
        used.templateOf .empty .dataClass = .ok dataClassTemplate ∧
          used'.templateOf .empty .dataClass = .ok dataClassTemplate ∧
          ∃ code, ∀ table,
            (used.generate .empty (noteModel.withTable table) .null).text = .ok code ∧
            ∃ text, (used'.generate .empty (noteModel.withTable table) .null).text = .ok text ∧
              dropComments text = code := by
  intro s silent spoken
  have hi : Artifact.dataClass.ClearImports .standard noteModel :=
    clearImports_of_unbroken (fun folder => by cases folder <;> decide) noteModel .dataClass
  refine ⟨rfl, hi, oneLined_noteModel, _, _, _, _, rfl, rfl, ?_⟩
  have hquiet : UsesBuiltin .model silent _ := usesBuiltin_make (s := s) rfl rfl
  have hloud : UsesBuiltin .model spoken _ := usesBuiltin_make (s := s) rfl rfl
  have htemplate := (usesBuiltin_after hquiet .empty
    [.specify noteModel .null]).templateOf_eq rfl .empty .dataClass
  have htemplate' := (usesBuiltin_after hloud .empty
    [.specify noteModel .null]).templateOf_eq rfl .empty .dataClass
  refine ⟨htemplate, htemplate', ?_⟩
  have hfiles := generate_dropComments (m := noteModel)
    (rfl : (make .model silent).run.run s = (.ok _, _))
    (rfl : (make .model spoken).run.run s = (.ok _, _)) rfl .empty [.specify noteModel .null]
    (rfl : Artifact.ofOptions .model .null = _) (by decide) hi oneLined_noteModel htemplate
    htemplate'
  exact hfiles.resolve_right fun ⟨_, misuse, hproblems, _⟩ => by cases hproblems

/-! ### Imports that look like comments -/

/-- **A form that has an import with a line that looks like a comment** does not lead to itself if
the comments are left out. -/
theorem text_form_ne_dropComments (h : quiet.IsFor component settings)
    (hi : ¬(Artifact.widget .form).ClearImports settings m)
    (htemplate : quiet.templateOf tree (.widget .form) = .ok formTemplate) :
    ∃ code, (quiet.generateFile tree m (.widget .form)).text = .ok code ∧
      ∀ text, dropComments text ≠ code := by
  refine ⟨_, generateFile_form m htemplate, ?_⟩
  have hlooks : ∃ line ∈ (Artifact.widget .form).imports (quiet.learn m).context m,
      ∃ row ∈ rows line, isComment row = true := by
    rw [(h.learn m).context_eq]
    unfold Artifact.ClearImports at hi
    push Not at hi
    obtain ⟨line, hline, row, hrow, hcomment⟩ := hi
    exact ⟨line, hline, row, hrow, by simpa using hcomment⟩
  obtain ⟨line, hline, row, hrow, hcomment⟩ := hlooks
  rw [spell_formChunks]
  refine dropComments_ne_tidy (mem_rows_unlines (l := line) ?_ hrow) hcomment
  simp only [widgetLines, List.append_assoc]
  exact List.mem_append_left _ hline

/-- Settings with a line break in the name of a folder. -/
def brokenSettings : Settings :=
  { Settings.standard with
    output := { Settings.standard.output with modelsPath := .text "x\n///y" } }

/-- What follows the break in the name of a folder is left out with the comments. -/
theorem generate_dropComments_broken :
    let s := Session.start .empty [] Web.unreachable
    Artifact.ofOptions .widget .null = .ok (.widget .form) ∧ noteModel.OneLined ∧
      ∃ quiet loud made made',
        (make .widget (brokenSettings.documented (.bool false))).run.run s = (.ok quiet, made) ∧
        (make .widget (brokenSettings.documented (.bool true))).run.run s = (.ok loud, made') ∧
        quiet.templateOf .empty (.widget .form) = .ok formTemplate ∧
        loud.templateOf .empty (.widget .form) = .ok formTemplate ∧
        ∃ code text, (quiet.generate .empty noteModel .null).text = .ok code ∧
          (loud.generate .empty noteModel .null).text = .ok text ∧ dropComments text ≠ code := by
  intro s
  refine ⟨rfl, oneLined_noteModel, _, _, _, _, rfl, rfl, ?_⟩
  have hquiet : UsesBuiltin .widget (brokenSettings.documented (.bool false)) _ :=
    usesBuiltin_make (s := s) rfl rfl
  have hloud : UsesBuiltin .widget (brokenSettings.documented (.bool true)) _ :=
    usesBuiltin_make (s := s) rfl rfl
  have htemplate := hquiet.templateOf_eq rfl .empty (.widget .form)
  have htemplate' := hloud.templateOf_eq rfl .empty (.widget .form)
  have hi : ¬(Artifact.widget .form).ClearImports (brokenSettings.documented (.bool false))
      noteModel := by
    intro hi
    have hrow := hi "import '../x\n///y/note.dart';" (by decide +kernel) "///y/note.dart';".toList
      (by decide +kernel)
    revert hrow
    decide
  obtain ⟨code, hcode, hne⟩ := text_form_ne_dropComments
    (isFor_make (rfl : (make .widget (brokenSettings.documented (.bool false))).run.run s =
      (.ok _, _))) hi htemplate
  have htext := generateFile_form noteModel htemplate'
  exact ⟨htemplate, htemplate', code, _, hcode, htext, hne _⟩

end Generator

end Dart

end DartScaffold
