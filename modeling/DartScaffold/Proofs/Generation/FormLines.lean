/-
**The lines of a form.**

A form has a control for each column that can be edited: those that are not left out, without those
that the backend fills in itself.  The class of its state goes through the controls five times.  It
declares a member for each, sets it when the state begins, disposes of it when the state ends, shows
a tile for it, and has a method that lets a date be picked.  A member is a flag for a truth value,
and a controller for anything else.  The template of forms is filled to these lines, whatever the
model and the settings.

Main definitions:

* `Dart.editable` — the columns that a form edits;
* `Dart.stateName`, `Dart.pickerName`, `Dart.labelOf` — what the names of a control are made from;
* `Dart.declarationOf`, `Dart.settingLines`, `Dart.disposalOf`, `Dart.tileLines`,
  `Dart.pickerLines` — what the sections have for a column;
* `Dart.widgetLines`, `Dart.stateLines` — the class of the widget with all in front of it, and the
  class of its state.

Main results:

* `Dart.inputFields_eq` — the fields that can be edited are those of these columns;
* `Dart.eval_control`, `Dart.eval_stateName` — the values of the gaps for a control;
* `Dart.writes_widgetLines`, `Dart.writes_stateLines` — what the two parts of the template write;
* `Dart.writes_form` — **the template writes the lines of the form**.
-/

import DartScaffold.Proofs.Generation.ClassLines

set_option relaxedAutoImplicit false
set_option autoImplicit false

namespace DartScaffold.Dart

open Template (Scope Value Writes eval valueOf)

/-! ### The columns that are edited -/

/-- The columns that a form edits. -/
def editable (c : Context) (m : Model) : List Attribute :=
  (c.included m).filter fun a => !Context.systemColumns.any fun key => a.name.same (.text key)

/-- The fields that can be edited are those of these columns. -/
theorem inputFields_eq (c : Context) (m : Model) :
    inputFields c m = (editable c m).map (Field.ofAttribute c) := by
  rw [inputFields, fields, List.filter_map]
  rfl

theorem controlOf_eq_toggle (t : ColumnType) : controlOf t = "toggle" ↔ t = .bool := by
  cases t <;> decide

theorem controlOf_eq_date (t : ColumnType) : controlOf t = "date" ↔ t = .datetime := by
  cases t <;> decide

/-! ### The lines of a column -/

section

variable (c : Context) (a : Attribute)

/-- The member that holds what is entered, without the low line in front of it: a flag, or the
controller of a text. -/
def stateName : String :=
  if a.target = .bool then c.names.field a.name else c.names.field a.name ++ "Controller"

/-- The method that lets a date be picked, without the low line in front of it. -/
def pickerName (a : Attribute) : String := "select" ++ Naming.pascal (Naming.source a.name)

/-- The label of a control. -/
def labelOf (a : Attribute) : String := Naming.title (Naming.source a.name)

/-- What stands in front of the name of a controller where it is declared. -/
def declaring : String :=
  if c.nullSafe then "  late final TextEditingController _" else "  TextEditingController _"

/-- The member is declared. -/
def declarationOf : List String :=
  if a.target = .bool then ["  bool _" ++ stateName c a ++ " = false;"]
  else [declaring c ++ stateName c a ++ ";"]

/-- It is set to what the form begins with. -/
def settingLines : List String :=
  if a.target = .bool then
    ["    _" ++ stateName c a ++ " = initial['" ++ a.name.display ++ "'] == true;"]
  else
    ["    _" ++ stateName c a ++ " = TextEditingController(",
      "      text: initial['" ++ a.name.display ++ "']?.toString() ?? '',", "    );"]

/-- A controller is disposed of. -/
def disposalOf : List String := ["    _" ++ stateName c a ++ ".dispose();"]

/-- What is special about the text field of a number or a date. -/
def keyboardLines : List String :=
  if controlOf a.target = "number" then ["            keyboardType: TextInputType.number,"]
  else if a.target = .datetime then
    ["            readOnly: true,", "            onTap: _" ++ pickerName a ++ ","]
  else []

/-- Something has to be entered, unless the value may be missing. -/
def validatorLines : List String :=
  if a.nullable then []
  else
    ["            validator: (value) =>",
      "                value == null || value.isEmpty ? '" ++ ("Please enter " ++ labelOf a) ++
        "' : null,"]

/-- A tile with a switch. -/
def switchLines : List String := [
  "          SwitchListTile(",
  "            title: const Text('" ++ labelOf a ++ "'),",
  "            value: _" ++ stateName c a ++ ",",
  "            onChanged: (value) => setState(() => _" ++ stateName c a ++ " = value),",
  "          ),"]

/-- A text field. -/
def textFieldLines : List String :=
  ["          TextFormField(",
    "            controller: _" ++ stateName c a ++ ",",
    "            decoration: const InputDecoration(",
    "              labelText: '" ++ labelOf a ++ "',",
    "              border: OutlineInputBorder(),"] ++
  (if a.target = .datetime then ["              suffixIcon: Icon(Icons.calendar_today),"]
    else []) ++
  ["            ),"] ++ keyboardLines a ++ validatorLines a ++ ["          ),"]

/-- The tile of a control. -/
def tileLines : List String :=
  (if a.target = .bool then switchLines c a else textFieldLines c a) ++
    ["          const SizedBox(height: 16),"]

/-- The method that lets a date be picked. -/
def pickerLines : List String := [
  "  Future<void> _" ++ pickerName a ++ "() async \x7b",
  "    final current = DateTime.tryParse(_" ++ stateName c a ++ ".text);",
  "    final picked = await showDatePicker(",
  "      context: context,",
  "      initialDate: current ?? DateTime.now(),",
  "      firstDate: DateTime(1900),",
  "      lastDate: DateTime(2100),",
  "    );",
  "    if (picked != null) \x7b",
  "      setState(() => _" ++ stateName c a ++ ".text = picked.toIso8601String());",
  "    \x7d",
  "  \x7d"]

end

/-! ### The lines of a form -/

section

variable (c : Context) (m : Model)

/-- The name of a form. -/
def formName : String := c.typeName m ++ Naming.pascal "form"

/-- The class of the widget, with all that is in front of it. -/
def widgetLines : List String :=
  (widget c m .form).imports ++ [""] ++
  (if c.settings.code.documentation.truthy then
    commentLines 0 ("Form for creating and editing a " ++ c.typeName m ++ ".") else []) ++
  ["class " ++ formName c m ++ " extends StatefulWidget \x7b",
    "  final void Function(Map<String, dynamic> data)" ++ c.mark ++ " onSubmit;",
    "  final Map<String, dynamic>" ++ c.mark ++ " initialData;",
    "",
    "  const " ++ formName c m ++ "(\x7bsuper.key, this.onSubmit, this.initialData\x7d);",
    "",
    "  @override",
    "  State<" ++ formName c m ++ "> createState() => _" ++ formName c m ++ "State();",
    "\x7d",
    ""]

/-- The members of the state. -/
def memberLines : List String :=
  ["  final _formKey = GlobalKey<FormState>();"] ++ (editable c m).flatMap (declarationOf c)

/-- The beginning of the state. -/
def beginningLines : List String :=
  ["  @override", "  void initState() \x7b", "    super.initState();"] ++
  (if editable c m = [] then []
    else ["    final initial = widget.initialData ?? const <String, dynamic>\x7b\x7d;"]) ++
  (editable c m).flatMap (settingLines c) ++ ["  \x7d"]

/-- The end of the state. -/
def endLines : List String :=
  ["  @override", "  void dispose() \x7b"] ++
  ((editable c m).filter (·.target != .bool)).flatMap (disposalOf c) ++
  ["    super.dispose();", "  \x7d"]

/-- The tiles, with a button behind them. -/
def buildLines : List String :=
  ["  @override", "  Widget build(BuildContext context) \x7b", "    return Form(",
    "      key: _formKey,", "      child: Column(", "        children: ["] ++
  (editable c m).flatMap (tileLines c) ++
  ["          ElevatedButton(", "            onPressed: _submitForm,",
    "            child: const Text('Submit'),", "          ),", "        ],", "      ),",
    "    );", "  \x7d"]

/-- What happens when the form is sent. -/
def submitLines : List String := [
  "  bool _validateForm() \x7b",
  "    return _formKey.currentState?.validate() ?? false;",
  "  \x7d",
  "",
  "  void _submitForm() \x7b",
  "    if (_validateForm()) \x7b",
  "      final data = _buildFormData();",
  "      widget.onSubmit?.call(data);",
  "    \x7d",
  "  \x7d",
  "",
  "  Map<String, dynamic> _buildFormData() \x7b",
  "    // TODO: Build form data from controllers",
  "    return \x7b\x7d;",
  "  \x7d"]

/-- The class of the state. -/
def stateLines : List String :=
  ["class _" ++ formName c m ++ "State extends State<" ++ formName c m ++ "> \x7b"] ++
  memberLines c m ++ [""] ++ beginningLines c m ++ [""] ++ endLines c m ++ [""] ++
  buildLines c m ++
  ((editable c m).filter (·.target == .datetime)).flatMap (fun a => "" :: pickerLines c a) ++
  [""] ++ submitLines ++ ["\x7d"]

end

/-! ### Values in the template -/

theorem isPlain_widget (w : Widget) : w.value.IsPlain := ⟨_, _, _, _, rfl, by decide +kernel⟩

theorem isPlain_control (k : Control) : k.value.IsPlain := ⟨_, _, _, _, rfl, by decide +kernel⟩

section

variable {c : Context} {a : Attribute} {scope : Scope}
  (hcontrol : valueOf scope "control" = (controlFor (Field.ofAttribute c a)).value)
include hcontrol

/-- The gap for a member of a control. -/
theorem eval_control {n : String} {w : Value}
    (hn : (controlFor (Field.ofAttribute c a)).value.entries.lookup n = some w) :
    eval scope (Template.member "control" n) = .ok w :=
  Template.eval_member hcontrol (isPlain_control _) hn

/-- The gap for a member of the field of a control. -/
theorem eval_controlField {n : String} {w : Value}
    (hn : (Field.ofAttribute c a).value.entries.lookup n = some w) :
    eval scope (.member (Template.member "control" "field") n) = .ok w := by
  rw [eval, eval_control hcontrol (n := "field") rfl]
  exact (isPlain_field _).member_eq hn

theorem eval_stateName : eval scope (Template.member "control" "state_name") =
    .ok (.text ("_" ++ stateName c a)) := by
  have hname : (controlFor (Field.ofAttribute c a)).stateName = "_" ++ stateName c a := by
    unfold controlFor stateName Field.control Field.ofAttribute
    cases a.target with
    | bool => rfl
    | _ => exact String.append_assoc
  rw [← hname]
  exact eval_control hcontrol rfl

theorem eval_pickerName (hdate : a.target = .datetime) :
    eval scope (Template.member "control" "picker_name") = .ok (.text ("_" ++ pickerName a)) := by
  have hname : (controlFor (Field.ofAttribute c a)).pickerName = "_" ++ pickerName a := by
    have hpicker : (controlFor (Field.ofAttribute c a)).pickerName =
        "_select" ++ Naming.pascal (Naming.source a.name) :=
      if_pos ((controlOf_eq_date _).2 hdate)
    rw [hpicker, pickerName, ← String.append_assoc]
    rfl
  rw [← hname]
  exact eval_control hcontrol rfl

/-- Whether a control is of a kind. -/
theorem eval_kind (kind : String) :
    eval scope (.equal (Template.member "control" "kind") (Template.quote kind)) =
      .ok (.flag (controlOf a.target == kind)) :=
  Template.eval_equal (eval_control hcontrol rfl)

/-- Parts that are kept for a kind of control. -/
theorem writes_kind {kind : String} {yes no : List Template.Segment} {ls more : List String}
    (hyes : Writes scope "" yes ls) (hno : Writes scope "" no more) :
    Writes scope "" [.branch (.equal (Template.member "control" "kind") (Template.quote kind))
      yes no] (if controlOf a.target = kind then ls else more) := by
  have hbranch := Writes.branch (eval_kind hcontrol kind) (Value.truthy_flag _) hyes hno
  simpa only [beq_iff_eq] using hbranch

/-- Parts that differ for switches and text fields. -/
theorem writes_tile {yes no : List Template.Segment} {ls more : List String}
    (hyes : Writes scope "" yes ls) (hno : Writes scope "" no more) :
    Writes scope "" [.branch (.equal (Template.member "control" "kind") (Template.quote "toggle"))
      yes no] (if a.target = .bool then ls else more) := by
  simp only [← controlOf_eq_toggle]
  exact writes_kind hcontrol hyes hno

/-- Parts that are kept for dates. -/
theorem writes_date {yes : List Template.Segment} {ls : List String}
    (hyes : a.target = .datetime → Writes scope "" yes ls) :
    Writes scope "" [Template.when (.equal (Template.member "control" "kind")
      (Template.quote "date")) yes] (if a.target = .datetime then ls else []) := by
  refine .branch_chosen (eval_kind hcontrol "date") (Value.truthy_flag _) ?_
  cases htarget : a.target with
  | datetime => exact hyes htarget
  | _ => exact .nil

theorem eval_textual : eval scope (Template.member "control" "uses_controller") =
    .ok (.flag (a.target != .bool)) := by
  have htextual : (controlFor (Field.ofAttribute c a)).isTextual = (a.target != .bool) := by
    show (controlOf a.target != "toggle") = _
    cases a.target <;> decide
  rw [← htextual]
  exact eval_control hcontrol rfl

/-- Parts that differ for texts and truth values. -/
theorem writes_textual {yes no : List Template.Segment} {ls more : List String}
    (hyes : Writes scope "" yes ls) (hno : Writes scope "" no more) :
    Writes scope "" [.branch (Template.member "control" "uses_controller") yes no]
      (if a.target = .bool then more else ls) := by
  refine .branch_chosen (eval_textual hcontrol) (Value.truthy_flag _) ?_
  cases a.target with
  | bool => exact hno
  | _ => exact hyes

/-- The message of a control in which something has to be entered. -/
theorem eval_message : eval scope (Template.member "control" "validator_message") =
    .ok (.text (if a.nullable then "" else "Please enter " ++ labelOf a)) := by
  have hmessage : (controlFor (Field.ofAttribute c a)).message =
      if a.nullable then "" else "Please enter " ++ labelOf a := by
    show (if !a.nullable then _ else _) = _
    cases a.nullable <;> rfl
  rw [← hmessage]
  exact eval_control hcontrol rfl

/-- Parts that are kept where something has to be entered. -/
theorem writes_required {yes : List Template.Segment} {ls : List String}
    (hyes : a.nullable = false → Writes scope "" yes ls) :
    Writes scope "" [Template.when (Template.member "control" "validator_message") yes]
      (if a.nullable then [] else ls) := by
  have hmessage := eval_message hcontrol
  cases hnullable : a.nullable with
  | true =>
      rw [hnullable] at hmessage
      exact .branch_chosen hmessage (b := false) rfl .nil
  | false =>
      rw [hnullable] at hmessage
      have htruthy : (Value.text ("Please enter " ++ labelOf a)).truthy = .ok true := by
        rw [Value.truthy_text, bne_iff_ne.2]
        intro hempty
        have hfirst := congrArg (fun s : String => s.toList.head?) hempty
        simp [String.toList_append] at hfirst
      exact .branch_chosen hmessage htruthy (hyes hnullable)

end

/-! ### Filling the template -/

section

variable {c : Context} {m : Model} {scope : Scope}

/-- What stands in front of the type of a controller. -/
theorem eval_late (hmark : valueOf scope "n" = .text c.mark) :
    eval scope (.choose (.name "n") (Template.quote "late final ") (Template.quote "")) =
      .ok (.text (if c.nullSafe then "late final " else "")) := by
  have htruthy : (Value.text c.mark).truthy = .ok c.nullSafe := by
    unfold Context.mark
    cases c.nullSafe <;> rfl
  have hn : eval scope (.name "n") = .ok (.text c.mark) := by rw [eval, hmark]
  rw [Template.eval_choose hn htruthy]
  cases c.nullSafe with
  | true =>
      rw [if_pos rfl, if_pos rfl, Template.quote, eval]
      rfl
  | false =>
      rw [if_neg Bool.false_ne_true, if_neg Bool.false_ne_true, Template.quote, eval]
      rfl

theorem eval_controls (hwidget : valueOf scope "widget" = (widget c m .form).value) :
    eval scope (Template.member "widget" "controls") =
      .ok (.list ((editable c m).map fun a => (controlFor (Field.ofAttribute c a)).value)) := by
  rw [Template.eval_member hwidget (isPlain_widget _) (n := "controls") rfl]
  show Except.ok (Value.list (((inputFields c m).map controlFor).map Control.value)) = _
  rw [inputFields_eq, List.map_map, List.map_map]
  rfl

/-- A loop over the controls names the one that it has come to. -/
theorem valueOf_control (scope : Scope) (a : Attribute) :
    valueOf (scope.put "control" (controlFor (Field.ofAttribute c a)).value) "control" =
      (controlFor (Field.ofAttribute c a)).value := by
  rw [Template.valueOf_put, if_pos rfl]

/-- The first part of the template writes the class of the widget, with all in front of it. -/
theorem writes_widgetLines (hwidget : valueOf scope "widget" = (widget c m .form).value)
    (hn : valueOf scope "n" = .text c.mark)
    (hname : valueOf scope "name" = .text (formName c m)) :
    Writes scope "" ((formTemplate.drop 2).take 25) (widgetLines c m) := by
  have hwidgetMember {n : String} {w : Value}
      (h : (widget c m .form).value.entries.lookup n = some w) :
      eval scope (Template.member "widget" n) = .ok w :=
    Template.eval_member hwidget (isPlain_widget _) h
  have hmark : eval scope (.name "n") = .ok (.text c.mark) := by rw [eval, hn]
  have hform : eval scope (.name "name") = .ok (.text (formName c m)) := by rw [eval, hname]
  simp only [widgetLines, List.append_assoc, List.cons_append, List.nil_append]
  dsimp only [formTemplate, List.drop, List.take]
  refine .block (writes_importLines (hwidgetMember rfl)) (.whole rfl ?_)
  refine .block (writes_documentation (hwidgetMember rfl) ?_) ?_
  · intro hempty
    have hlast := congrArg (fun s : String => s.toList.getLast?) hempty
    simp [String.toList_append] at hlast
  refine .around hform rfl rfl (.around hmark rfl rfl (.around hmark rfl rfl ?_))
  refine .whole rfl (.around hform rfl rfl ?_)
  repeat refine .whole rfl ?_
  refine .start (.value hform rfl (.text (.value hform rfl (.line rfl ?_))))
  exact .whole rfl (.whole rfl .nil)

/-- The rest of it writes the class of the state. -/
theorem writes_stateLines (hwidget : valueOf scope "widget" = (widget c m .form).value)
    (hn : valueOf scope "n" = .text c.mark)
    (hname : valueOf scope "name" = .text (formName c m)) :
    Writes scope "" ((formTemplate.drop 2).drop 25) (stateLines c m) := by
  have hcontrols := eval_controls hwidget
  have hform : eval scope (.name "name") = .ok (.text (formName c m)) := by rw [eval, hname]
  -- What the names stand for within a loop over the controls.
  have hcontrol := valueOf_control (c := c)
  have houter (items : List Value) (i : Nat) (a : Attribute) :
      valueOf ((scope.put "loop" (Template.loopValue items i)).put "control"
        (controlFor (Field.ofAttribute c a)).value) "n" = .text c.mark := by
    rw [Template.valueOf_put, if_neg (by decide), Template.valueOf_put, if_neg (by decide), hn]
  have hstate (scope : Scope) (a : Attribute) := eval_stateName (hcontrol scope a)
  have hkey (scope : Scope) (a : Attribute) :=
    eval_controlField (n := "json_key") (hcontrol scope a) rfl
  have hlabel (scope : Scope) (a : Attribute) :=
    eval_controlField (n := "label") (hcontrol scope a) rfl
  have hpicker (scope : Scope) {a : Attribute} (hdate : a.target = .datetime) :=
    eval_pickerName (hcontrol scope a) hdate
  have hfront : "  " ++ (if c.nullSafe then "late final " else "") ++
      "TextEditingController " ++ "_" = declaring c := by
    unfold declaring
    cases c.nullSafe <;> rfl
  simp only [stateLines, memberLines, beginningLines, endLines, buildLines, submitLines,
    List.append_assoc, List.cons_append, List.nil_append]
  dsimp only [formTemplate, List.drop]
  -- The members of the state.
  refine .start (.value hform rfl (.text (.value hform rfl (.line rfl ?_))))
  repeat refine .whole rfl ?_
  refine .block (.each_item hcontrols fun a _ i => writes_textual (hcontrol _ a) ?_ ?_)
    (.whole rfl ?_)
  · exact .start (.value (eval_late (houter _ i a)) rfl (.text (.joined (hstate _ a) rfl hfront
      (.line rfl .nil))))
  · exact .start (.joined (hstate _ a) rfl rfl (.line rfl .nil))
  -- The beginning of the state.
  repeat refine .whole rfl ?_
  refine .block ?_ ?_
  · refine .branch_chosen hcontrols rfl ?_
    cases editable c m with
    | nil => exact .nil
    | cons a as => exact .whole rfl .nil
  refine .block (.each_item hcontrols fun a _ i => writes_textual (hcontrol _ a) ?_ ?_) ?_
  · refine .start (.joined (hstate _ a) rfl rfl (.line rfl ?_))
    exact .around (hkey _ a) rfl rfl (.whole rfl .nil)
  · exact .start (.joined (hstate _ a) rfl rfl (.text (.value (hkey _ a) rfl (.line rfl .nil))))
  -- The end of the state.
  repeat refine .whole rfl ?_
  refine .block (.each_kept_item hcontrols (fun a _ => ?_) fun a _ i => ?_) ?_
  · exact ⟨_, eval_textual (hcontrol _ a), rfl⟩
  · exact .start (.joined (hstate _ a) rfl rfl (.line rfl .nil))
  -- The tiles.
  repeat refine .whole rfl ?_
  refine .block (.each_item hcontrols fun a _ i => ?_) ?_
  · refine .block (writes_tile (hcontrol _ a) ?_ ?_) (.whole rfl .nil)
    · refine .whole rfl (.around (hlabel _ a) rfl rfl ?_)
      refine .start (.joined (hstate _ a) rfl rfl (.line rfl ?_))
      exact .start (.joined (hstate _ a) rfl rfl (.line rfl (.whole rfl .nil)))
    · simp only [textFieldLines, keyboardLines, validatorLines, List.append_assoc,
        List.cons_append, List.nil_append]
      refine .whole rfl (.start (.joined (hstate _ a) rfl rfl (.line rfl ?_)))
      refine .whole rfl (.around (hlabel _ a) rfl rfl (.whole rfl ?_))
      refine .block (writes_date (hcontrol _ a) fun _ => .whole rfl .nil) (.whole rfl ?_)
      refine .block (writes_kind (hcontrol _ a) (.whole rfl .nil)
        (writes_date (hcontrol _ a) fun hdate => ?_)) ?_
      · exact .whole rfl (.start (.joined (hpicker _ hdate) rfl rfl (.line rfl .nil)))
      refine .block (writes_required (hcontrol _ a) fun hrequired => ?_) (.whole rfl .nil)
      have hmessage (scope : Scope) := eval_message (hcontrol scope a)
      rw [hrequired] at hmessage
      exact .whole rfl (.around (hmessage _) rfl rfl .nil)
  -- The methods that let dates be picked.
  repeat refine .whole rfl ?_
  refine .block (.each_kept_item hcontrols (fun a _ => ?_) fun a ha i => ?_) ?_
  · have hdate : (controlOf a.target == "date") = (a.target == .datetime) := by
      cases a.target <;> decide
    exact ⟨_, eval_kind (hcontrol _ a) "date", congrArg Except.ok hdate⟩
  · have hdate : a.target = .datetime := beq_iff_eq.1 (List.mem_filter.1 ha).2
    refine .whole rfl (.start (.joined (hpicker _ hdate) rfl rfl (.line rfl ?_)))
    refine .start (.joined (hstate _ a) rfl rfl (.line rfl ?_))
    repeat refine .whole rfl ?_
    refine .start (.joined (hstate _ a) rfl rfl (.line rfl ?_))
    exact .whole rfl (.whole rfl .nil)
  -- What happens when the form is sent.
  repeat refine .whole rfl ?_
  exact .nil

/-- **The template writes the lines of the form**, behind the names that are given first. -/
theorem writes_form (hwidget : valueOf scope "widget" = (widget c m .form).value)
    (hn : valueOf scope "n" = .text c.mark)
    (hname : valueOf scope "name" = .text (formName c m)) :
    Writes scope "" (formTemplate.drop 2) (widgetLines c m ++ stateLines c m) := by
  rw [← List.take_append_drop 25 (formTemplate.drop 2)]
  exact (writes_widgetLines hwidget hn hname).append (writes_stateLines hwidget hn hname)

end

end DartScaffold.Dart
