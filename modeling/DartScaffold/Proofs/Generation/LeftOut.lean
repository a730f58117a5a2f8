/-
**Columns that are left out leave no trace.**

The settings name columns that are left out of everything that is generated.  Two models that
differ in such columns only cannot be told apart by what is generated for them: the fields of a
model are made from the columns that are not left out, every class, control, row and expression is
made from the fields, and so are the names that a generator remembers.  The columns themselves are
looked at in one other place, the warnings about a model; whether these can be given at all, and so
whether there is a text, does not depend on them.

Main definitions:

* `Model.without` — the model without the columns of some names;
* `Dart.AgreeOutside` — two models that differ in columns of some names only.

Main results:

* `Dart.fields_eq_of_agree` — such models have the same fields;
* `Dart.scope_eq_of_agree` — templates are filled with the same values for them;
* `Dart.generateFile_eq_of_agree` — **the same texts are generated for them**, and the generator is
  the same afterwards;
* `Dart.generate_without` — deleting the columns that are left out changes no text.
-/

import DartScaffold.Dart.Generator

set_option relaxedAutoImplicit false
set_option autoImplicit false

namespace DartScaffold

/-- The model without the columns of some names. -/
def Model.without (m : Model) (names : List Datum) : Model :=
  { m with attributes := m.attributes.filter fun e => !e.1.isIn names }

namespace Dart

/-- Two models that differ in columns of some names only. -/
structure AgreeOutside (names : List Datum) (m m' : Model) : Prop where
  columns : (m.attributes.filter fun e => !e.1.isIn names) =
    m'.attributes.filter fun e => !e.1.isIn names
  rest : m' = { m with attributes := m'.attributes }

/-- Deleting the columns of some names leaves a model that differs in these only. -/
theorem agreeOutside_without (names : List Datum) (m : Model) :
    AgreeOutside names m (m.without names) where
  columns := by
    unfold Model.without
    rw [List.filter_filter]
    congr 1
    funext e
    rw [Bool.and_self]
  rest := rfl

section Agreement

variable {c : Context} {m m' : Model}

/-! ### Fields -/

/-- Models that agree outside the columns that are left out include the same columns. -/
theorem included_eq_of_agree (h : AgreeOutside c.settings.analysis.excludedAttributes m m') :
    c.included m' = c.included m := by
  unfold Context.included Context.isLeftOut
  exact congrArg (List.map Prod.snd) h.columns.symm

theorem fields_eq_of_agree (h : AgreeOutside c.settings.analysis.excludedAttributes m m') :
    fields c m' = fields c m := by
  unfold fields
  rw [included_eq_of_agree h]

theorem inputFields_eq_of_agree
    (h : AgreeOutside c.settings.analysis.excludedAttributes m m') :
    inputFields c m' = inputFields c m := by
  unfold inputFields
  rw [fields_eq_of_agree h]

/-! ### What templates are filled with -/

theorem dataClass_eq_of_agree (h : AgreeOutside c.settings.analysis.excludedAttributes m m') :
    dataClass c m' = dataClass c m := by
  have hfields := fields_eq_of_agree h
  unfold dataClass
  rw [hfields, h.rest]
  rfl

theorem service_eq_of_agree {names : List Datum} (h : AgreeOutside names m m') :
    service c m' = service c m := by
  rw [h.rest]
  rfl

theorem widget_eq_of_agree (h : AgreeOutside c.settings.analysis.excludedAttributes m m')
    (kind : WidgetKind) : widget c m' kind = widget c m kind := by
  have hfields := fields_eq_of_agree h
  have hinput := inputFields_eq_of_agree h
  unfold widget
  rw [hfields, hinput, h.rest]
  rfl

/-- The key of a model is looked for among its fields. -/
theorem keyField?_eq_of_agree (h : AgreeOutside c.settings.analysis.excludedAttributes m m') :
    keyField? c m' = keyField? c m := by
  have hfields := fields_eq_of_agree h
  unfold keyField?
  rw [hfields, h.rest]

theorem screen_eq_of_agree (h : AgreeOutside c.settings.analysis.excludedAttributes m m')
    (kind : ScreenKind) : screen c m' kind = screen c m kind := by
  have hfields := fields_eq_of_agree h
  have hkey := keyField?_eq_of_agree h
  unfold screen
  rw [hfields, hkey, h.rest]
  rfl

/-- **Templates are filled with the same values.** -/
theorem scope_eq_of_agree (h : AgreeOutside c.settings.analysis.excludedAttributes m m')
    (a : Artifact) : a.scope c m' = a.scope c m := by
  cases a with
  | dataClass => simp only [Artifact.scope, dataClass_eq_of_agree h]
  | service => simp only [Artifact.scope, service_eq_of_agree h]
  | widget kind => simp only [Artifact.scope, widget_eq_of_agree h]
  | screen kind => simp only [Artifact.scope, screen_eq_of_agree h]
  | transport => rfl

/-! ### What else a generator looks at -/

theorem nameRequests_eq_of_agree
    (h : AgreeOutside c.settings.analysis.excludedAttributes m m') :
    nameRequests c m' = nameRequests c m := by
  have hincluded := included_eq_of_agree h
  unfold nameRequests
  rw [hincluded, h.rest]
  rfl

/-- Whether the problems of a model can be told does not depend on its columns. -/
theorem problems_eq_error_iff {names : List Datum} (h : AgreeOutside names m m') (f : Misuse) :
    Context.problems m' = .error f ↔ Context.problems m = .error f := by
  rw [h.rest]
  unfold Context.problems
  cases Datum.ordered (Datum.distinct (m.fillable ++ m.hidden ++ Entries.keys m.casts)) with
  | error g => rfl
  | ok declared => simp [bind, Except.bind, pure, Except.pure]

/-- Warnings can be given for a model whatever its left-out columns are. -/
theorem warnings_eq_error_iff (h : AgreeOutside c.settings.analysis.excludedAttributes m m')
    (a : Artifact) (f : Misuse) :
    a.warnings c m' = .error f ↔ a.warnings c m = .error f := by
  cases a with
  | dataClass => exact problems_eq_error_iff h f
  | service => simp [Artifact.warnings]
  | widget kind => simp [Artifact.warnings]
  | screen kind => simp [Artifact.warnings]
  | transport => simp [Artifact.warnings]

end Agreement

/-! ### Texts -/

/-- **The same texts are generated** for models that agree outside the columns that are left out,
and the generator remembers the same afterwards. -/
theorem generateFile_eq_of_agree {g : Generator} {m m' : Model}
    (h : AgreeOutside g.settings.analysis.excludedAttributes m m') (tree : FileTree)
    (a : Artifact) :
    (g.generateFile tree m' a).text = (g.generateFile tree m a).text ∧
      (g.generateFile tree m' a).next = (g.generateFile tree m a).next := by
  have hlearn : g.learn m' = g.learn m := by
    unfold Generator.learn
    rw [nameRequests_eq_of_agree (c := g.context) h]
  unfold Generator.generateFile
  -- The warnings themselves may differ; what counts is that they can be given for both or neither.
  cases hw : a.warnings g.context m with
  | error f =>
      rw [(warnings_eq_error_iff (c := g.context) h a f).2 hw]
      exact ⟨rfl, rfl⟩
  | ok ws =>
      cases hw' : a.warnings g.context m' with
      | error f =>
          rw [(warnings_eq_error_iff (c := g.context) h a f).1 hw'] at hw
          cases hw
      | ok ws' =>
          have hscope : a.scope (g.learn m).context m' = a.scope (g.learn m).context m :=
            scope_eq_of_agree (c := (g.learn m).context) h a
          simp only [hlearn, hscope]
          cases a.scope (g.learn m).context m with
          | error f => exact ⟨rfl, rfl⟩
          | ok scope => exact ⟨rfl, rfl⟩

/-- **Columns that are left out leave no trace.**  Deleting them from a model changes no text that
is generated for it, neither that of a file of a known kind nor that of the file that options ask
for, and nothing of what the generator remembers for later files. -/
theorem generate_without (g : Generator) (tree : FileTree) (m : Model) :
    (∀ a : Artifact,
      (g.generateFile tree (m.without g.settings.analysis.excludedAttributes) a).text =
          (g.generateFile tree m a).text ∧
        (g.generateFile tree (m.without g.settings.analysis.excludedAttributes) a).next =
          (g.generateFile tree m a).next) ∧
    ∀ options : Datum,
      (g.generate tree (m.without g.settings.analysis.excludedAttributes) options).text =
          (g.generate tree m options).text ∧
        (g.generate tree (m.without g.settings.analysis.excludedAttributes) options).next =
          (g.generate tree m options).next := by
  have hagree := agreeOutside_without g.settings.analysis.excludedAttributes m
  refine ⟨fun a => generateFile_eq_of_agree hagree tree a, fun options => ?_⟩
  unfold Generator.generate
  cases Artifact.ofOptions g.component options with
  | error f => exact ⟨rfl, rfl⟩
  | ok a => exact generateFile_eq_of_agree hagree tree a

end Dart

end DartScaffold
