/-
**The text of a form.**

The class of a form's state is made of lines that end in something visible, with single blank lines
between them, as long as no name of a column has a line break.  So the layout of code leaves it as
it is.  What stands in front of it does not matter: it names a file by the settings, and these may
hold anything.

Main results:

* `Dart.isLaid_stateLines` — the class of the state keeps its layout;
* `Dart.Generator.exists_generateFile_form` — **the text of a form** ends in it.
-/

import DartScaffold.Proofs.Generation.ClassText
import DartScaffold.Proofs.Generation.FormLines

set_option relaxedAutoImplicit false
set_option autoImplicit false

namespace DartScaffold.Dart

open Text (Unbroken unlines)

/-! ### Names and labels -/

theorem unbroken_pascal (name : String) : Unbroken (Naming.pascal name) :=
  Text.unbroken_of_isAlphanum Naming.isAlphanum_of_mem_pascal

theorem unbroken_title (name : String) : Unbroken (Naming.title name) := by
  refine .join (.of_chars rfl rfl) fun s hs => ?_
  obtain ⟨w, hw, rfl⟩ := List.mem_map.1 hs
  exact Text.unbroken_of_isAlphanum
    (Naming.isAlphanum_of_mem_capitalize (Naming.mem_words hw).2)

theorem unbroken_labelOf (a : Attribute) : Unbroken (labelOf a) := unbroken_title _

theorem unbroken_pickerName (a : Attribute) : Unbroken (pickerName a) :=
  .append (.of_chars rfl rfl) (unbroken_pascal _)

section

variable {c : Context} (hc : Learned c.names)
include hc

theorem unbroken_stateName (a : Attribute) : Unbroken (stateName c a) := by
  unfold stateName
  split_ifs
  · exact unbroken_field hc _
  · exact (unbroken_field hc _).append (.of_chars rfl rfl)

theorem unbroken_formName (m : Model) : Unbroken (formName c m) :=
  (unbroken_type hc _).append (unbroken_pascal _)

/-! ### The lines of a column -/

variable (a : Attribute)

theorem isSolid_declarationOf : ∀ l ∈ declarationOf c a, IsSolid l := by
  have hname := unbroken_stateName hc a
  unfold declarationOf declaring
  split_ifs <;> exact List.forall_mem_singleton.2 (.around hname rfl rfl rfl)

theorem isSolid_settingLines (hkey : Unbroken a.name.display) :
    ∀ l ∈ settingLines c a, IsSolid l := by
  have hname := unbroken_stateName hc a
  have hset : Unbroken (stateName c a ++ " = initial['" ++ a.name.display) :=
    (hname.append (.of_chars rfl rfl)).append hkey
  unfold settingLines
  split_ifs
  · have hsplit : "    _" ++ stateName c a ++ " = initial['" ++ a.name.display =
        "    _" ++ (stateName c a ++ " = initial['" ++ a.name.display) := by
      simp only [String.append_assoc]
    rw [hsplit]
    exact List.forall_mem_singleton.2 (.around hset rfl rfl rfl)
  · exact List.forall_mem_cons.2 ⟨.around hname rfl rfl rfl, List.forall_mem_cons.2
      ⟨.around hkey rfl rfl rfl, List.forall_mem_singleton.2 (.of_chars rfl rfl)⟩⟩

theorem isSolid_disposalOf : ∀ l ∈ disposalOf c a, IsSolid l :=
  List.forall_mem_singleton.2 (.around (unbroken_stateName hc a) rfl rfl rfl)

theorem isSolid_switchLines : ∀ l ∈ switchLines c a, IsSolid l := by
  have hname := unbroken_stateName hc a
  have hvalue : IsSolid ("            value: _" ++ stateName c a ++ ",") :=
    .around hname rfl rfl rfl
  have hchanged : IsSolid
      ("            onChanged: (value) => setState(() => _" ++ stateName c a ++ " = value),") :=
    .around hname rfl rfl rfl
  refine forall_isSolid_cons rfl rfl (List.forall_mem_cons.2
    ⟨.around (unbroken_labelOf a) rfl rfl rfl, ?_⟩)
  refine List.forall_mem_cons.2 ⟨hvalue, List.forall_mem_cons.2 ⟨hchanged, ?_⟩⟩
  exact List.forall_mem_singleton.2 (.of_chars rfl rfl)

omit hc in
theorem isSolid_keyboardLines : ∀ l ∈ keyboardLines a, IsSolid l := by
  unfold keyboardLines
  split_ifs
  · exact List.forall_mem_singleton.2 (.of_chars rfl rfl)
  · exact List.forall_mem_cons.2 ⟨.of_chars rfl rfl,
      List.forall_mem_singleton.2 (.around (unbroken_pickerName a) rfl rfl rfl)⟩
  · exact List.forall_mem_nil _

omit hc in
theorem isSolid_validatorLines : ∀ l ∈ validatorLines a, IsSolid l := by
  have hmessage : Unbroken ("Please enter " ++ labelOf a) :=
    .append (.of_chars rfl rfl) (unbroken_labelOf a)
  unfold validatorLines
  split_ifs
  · exact List.forall_mem_nil _
  · exact List.forall_mem_cons.2 ⟨.of_chars rfl rfl,
      List.forall_mem_singleton.2 (.around hmessage rfl rfl rfl)⟩

theorem isSolid_textFieldLines : ∀ l ∈ textFieldLines c a, IsSolid l := by
  have hcontroller : IsSolid ("            controller: _" ++ stateName c a ++ ",") :=
    .around (unbroken_stateName hc a) rfl rfl rfl
  have hlabel : IsSolid ("              labelText: '" ++ labelOf a ++ "',") :=
    .around (unbroken_labelOf a) rfl rfl rfl
  have hicon : ∀ l ∈ (if a.target = .datetime then
      ["              suffixIcon: Icon(Icons.calendar_today),"] else []), IsSolid l := by
    split_ifs
    · exact List.forall_mem_singleton.2 (.of_chars rfl rfl)
    · exact List.forall_mem_nil _
  simp only [textFieldLines, List.forall_mem_append]
  refine ⟨⟨⟨⟨⟨?_, hicon⟩, ?_⟩, isSolid_keyboardLines a⟩, isSolid_validatorLines a⟩, ?_⟩
  · refine forall_isSolid_cons rfl rfl (List.forall_mem_cons.2 ⟨hcontroller, ?_⟩)
    refine forall_isSolid_cons rfl rfl (List.forall_mem_cons.2 ⟨hlabel, ?_⟩)
    exact List.forall_mem_singleton.2 (.of_chars rfl rfl)
  · exact List.forall_mem_singleton.2 (.of_chars rfl rfl)
  · exact List.forall_mem_singleton.2 (.of_chars rfl rfl)

theorem isSolid_tileLines : ∀ l ∈ tileLines c a, IsSolid l := by
  refine List.forall_mem_append.2 ⟨?_, List.forall_mem_singleton.2 (.of_chars rfl rfl)⟩
  split_ifs
  · exact isSolid_switchLines hc a
  · exact isSolid_textFieldLines hc a

theorem isSolid_pickerLines : ∀ l ∈ pickerLines c a, IsSolid l := by
  have hname := unbroken_stateName hc a
  have hcurrent : IsSolid
      ("    final current = DateTime.tryParse(_" ++ stateName c a ++ ".text);") :=
    .around hname rfl rfl rfl
  have hpicked : IsSolid ("      setState(() => _" ++ stateName c a ++
      ".text = picked.toIso8601String());") := .around hname rfl rfl rfl
  have hend : ∀ l ∈ (pickerLines c a).drop 9, IsSolid l :=
    List.forall_mem_cons.2 ⟨hpicked, forall_isSolid_cons rfl rfl
      (List.forall_mem_singleton.2 (.of_chars rfl rfl))⟩
  -- Between the two lines the dialog is shown, with nothing of the column in it.
  have hdialog : ∀ l ∈ (pickerLines c a).drop 2, IsSolid l := by
    repeat refine forall_isSolid_cons rfl rfl ?_
    exact hend
  exact List.forall_mem_cons.2 ⟨.around (unbroken_pickerName a) rfl rfl rfl,
    List.forall_mem_cons.2 ⟨hcurrent, hdialog⟩⟩

/-! ### The class of the state -/

variable {m : Model}

theorem isSolid_opening : IsSolid ("class _" ++ formName c m ++ "State extends State<" ++
    formName c m ++ "> \x7b") := by
  have hname := unbroken_formName hc m
  have hbegin : Unbroken ("class _" ++ formName c m ++ "State extends State<") :=
    (Unbroken.append (.of_chars rfl rfl) hname).append (.of_chars rfl rfl)
  exact isSolid_append (hbegin.append hname) (.of_chars rfl rfl)

theorem isSolid_memberLines : ∀ l ∈ memberLines c m, IsSolid l :=
  List.forall_mem_append.2 ⟨List.forall_mem_singleton.2 (.of_chars rfl rfl),
    List.forall_mem_flatMap.2 fun a _ => isSolid_declarationOf hc a⟩

theorem isSolid_beginningLines (h : ∀ a ∈ editable c m, Unbroken a.name.display) :
    ∀ l ∈ beginningLines c m, IsSolid l := by
  have hinitial : ∀ l ∈ (if editable c m = [] then [] else
      ["    final initial = widget.initialData ?? const <String, dynamic>\x7b\x7d;"]),
      IsSolid l := by
    split_ifs
    · exact List.forall_mem_nil _
    · exact List.forall_mem_singleton.2 (.of_chars rfl rfl)
  have hset : ∀ l ∈ (editable c m).flatMap (settingLines c), IsSolid l :=
    List.forall_mem_flatMap.2 fun a ha => isSolid_settingLines hc a (h a ha)
  simp only [beginningLines, List.forall_mem_append]
  refine ⟨⟨⟨?_, hinitial⟩, hset⟩, List.forall_mem_singleton.2 (.of_chars rfl rfl)⟩
  repeat refine forall_isSolid_cons rfl rfl ?_
  exact List.forall_mem_nil _

theorem isSolid_endLines : ∀ l ∈ endLines c m, IsSolid l := by
  have hdisposed : ∀ l ∈ ((editable c m).filter (·.target != .bool)).flatMap (disposalOf c),
      IsSolid l := List.forall_mem_flatMap.2 fun a _ => isSolid_disposalOf hc a
  simp only [endLines, List.forall_mem_append]
  refine ⟨⟨?_, hdisposed⟩, ?_⟩
  all_goals
    repeat refine forall_isSolid_cons rfl rfl ?_
    exact List.forall_mem_nil _

theorem isSolid_buildLines : ∀ l ∈ buildLines c m, IsSolid l := by
  have htiles : ∀ l ∈ (editable c m).flatMap (tileLines c), IsSolid l :=
    List.forall_mem_flatMap.2 fun a _ => isSolid_tileLines hc a
  simp only [buildLines, List.forall_mem_append]
  refine ⟨⟨?_, htiles⟩, ?_⟩
  all_goals
    repeat refine forall_isSolid_cons rfl rfl ?_
    exact List.forall_mem_nil _

omit hc in
/-- There are three methods behind the tiles. -/
theorem isLaid_submitLines : IsLaid submitLines := by
  have hvalidate : ∀ l ∈ submitLines.take 3, IsSolid l := by
    repeat refine forall_isSolid_cons rfl rfl ?_
    exact List.forall_mem_nil _
  have hsubmit : ∀ l ∈ (submitLines.drop 4).take 6, IsSolid l := by
    repeat refine forall_isSolid_cons rfl rfl ?_
    exact List.forall_mem_nil _
  have hgather : ∀ l ∈ submitLines.drop 11, IsSolid l := by
    repeat refine forall_isSolid_cons rfl rfl ?_
    exact List.forall_mem_nil _
  exact (IsLaid.of_solid hvalidate (List.cons_ne_nil _ _)).apart
    ((IsLaid.of_solid hsubmit (List.cons_ne_nil _ _)).apart
      (.of_solid hgather (List.cons_ne_nil _ _)))

/-- The sections of the class have single blank lines between them. -/
theorem isLaid_stateLines (h : ∀ a ∈ editable c m, Unbroken a.name.display) :
    IsLaid (stateLines c m) := by
  have hpickers : IsLaid (buildLines c m ++ ((editable c m).filter
      (·.target == .datetime)).flatMap fun a => "" :: pickerLines c a) :=
    (IsLaid.of_solid (isSolid_buildLines hc) (by simp [buildLines])).apart_flatMap
      fun a _ => .of_solid (isSolid_pickerLines hc a) (List.cons_ne_nil _ _)
  have hmembers : IsLaid (memberLines c m) :=
    .of_solid (isSolid_memberLines hc) (List.cons_ne_nil _ _)
  have hbeginning : IsLaid (beginningLines c m) :=
    .of_solid (isSolid_beginningLines hc h) (by simp [beginningLines])
  have hend : IsLaid (endLines c m) := .of_solid (isSolid_endLines hc) (by simp [endLines])
  have hsubmit : IsLaid (submitLines ++ ["\x7d"]) :=
    isLaid_submitLines.append (.one (.of_chars rfl rfl))
  simp only [stateLines, List.append_assoc, List.cons_append, List.nil_append]
  rw [← List.append_assoc (buildLines c m)]
  exact .line (isSolid_opening hc)
    (hmembers.apart (hbeginning.apart (hend.apart (hpickers.apart hsubmit))))

end

/-- The text of the template of forms: the two names that it gives first hold in all of it. -/
theorem textOf_form (c : Context) (m : Model) (name : Option String) :
    Template.Library.textOf name formTemplate [("widget", (widget c m .form).value)] =
      .ok (unlines (widgetLines c m ++ stateLines c m)) := by
  refine Template.textOf_eq rfl _ fun v => ?_
  have hwidget {scope : Template.Scope} (h : Template.valueOf scope "widget" =
      (widget c m .form).value) {n : String} {w : Template.Value}
      (hn : (widget c m .form).value.entries.lookup n = some w) :
      Template.eval scope (Template.member "widget" n) = .ok w :=
    Template.eval_member h (isPlain_widget _) hn
  have hparts : formTemplate =
      Template.define "n" (Template.member "widget" "nullable_suffix") ::
        Template.define "name" (Template.member "widget" "class_name") :: formTemplate.drop 2 := rfl
  rw [hparts, Template.render_define (hwidget rfl rfl), Template.render_define (hwidget rfl rfl)]
  exact Template.render_writes (writes_form rfl rfl rfl)

/-! ### Generators -/

namespace Generator

variable {g : Generator} {tree : FileTree}

/-- **The text of a form** that is generated from the built-in template ends in the class of its
state, if the names of the columns are on one line. -/
theorem exists_generateFile_form (hnames : Learned g.names) {m : Model}
    (hm : ∀ column ∈ m.attributes, Unbroken column.2.name.display)
    (htemplate : g.templateOf tree (.widget .form) = .ok formTemplate) :
    ∃ front, (∀ l ∈ front, Unbroken l) ∧ (g.generateFile tree m (.widget .form)).text =
      .ok (unlines (front ++ stateLines (g.learn m).context m)) := by
  have heditable : ∀ a ∈ editable (g.learn m).context m, Unbroken a.name.display := by
    intro a ha
    obtain ⟨name, hcolumn, -⟩ := (Context.mem_included _ m a).1 (List.mem_filter.1 ha).1
    exact hm _ hcolumn
  obtain ⟨front, hfront, htidy⟩ := exists_tidy_append
    (isLaid_stateLines (learned_learn hnames m) heditable) (widgetLines (g.learn m).context m)
  refine ⟨front, hfront, ?_⟩
  show ((g.library.fill tree (g.templateName (Artifact.widget .form).templateStem)
    [("widget", (widget (g.learn m).context m .form).value)]).1).map tidy = _
  rw [fill_of_templateOf htemplate, textOf_form]
  exact congrArg Except.ok htidy

end Generator

end DartScaffold.Dart
