/-
**A form manages its controls.**

The sections of a form's state go through the same columns, but each in a way of its own: one asks
whether a control uses a controller, another for the kind of the control, a third for a message that
was made elsewhere.  Read back from the text, they agree.  Whatever is declared is set from the
column's own key and, if it is a controller, disposed of; each control has one tile that uses its
member; only dates have methods that let them be picked, and only columns that must have a value are
validated.  Each line stands in the method in which it belongs.

Main definitions:

* `Dart.textColumns`, `Dart.flagColumns`, `Dart.dateColumns` — the columns of a kind among those
  that are edited;
* `Dart.ManagesControls` — what is read from the class agrees with the columns;
* `Dart.stateMarksOf` — what the lines of the class say, method by method.

Main results:

* `Dart.reads_settingLines`, `Dart.reads_tileLines` and the like — what the sections say;
* `Dart.managesControls_stateLines` — the lines of the class agree with the columns;
* `Dart.Generator.generate_controls` — **the form manages its controls consistently**.
-/

import DartScaffold.Proofs.Generation.FormReading
import DartScaffold.Proofs.Generation.FormText

set_option relaxedAutoImplicit false
set_option autoImplicit false

namespace DartScaffold.Dart

open Text (Unbroken unlines)

/-! ### The columns of a kind -/

section

variable (c : Context) (m : Model)

/-- The columns that are edited as texts. -/
def textColumns : List Attribute := (editable c m).filter (·.target != .bool)

/-- The truth values that are edited. -/
def flagColumns : List Attribute := (editable c m).filter (·.target == .bool)

/-- The dates that are edited. -/
def dateColumns : List Attribute := (editable c m).filter (·.target == .datetime)

/-- What is read from the class of a form's state agrees with the columns that are edited. -/
structure ManagesControls (marks : List Mark) : Prop where
  /-- For each text a controller is declared, -/
  declared : gaps .controller marks = (textColumns c m).map (stateName c)
  /-- which is assigned from the key of the column, -/
  assigned : pairs .assigned .begun marks =
    (textColumns c m).map fun a => (stateName c a, some a.name.display)
  /-- disposed of, -/
  disposed : gaps .disposed marks = (textColumns c m).map (stateName c)
  /-- and used by a text field, which can be tapped for a date, and is validated if the column must
  have a value. -/
  fields : textFields marks = (textColumns c m).map fun a =>
    { controllers := [stateName c a]
      handlers := if a.target = .datetime then [pickerName a] else []
      messages := if a.nullable then [] else ["Please enter " ++ labelOf a] }
  /-- For each truth value a flag is declared, -/
  flags : gaps .flag marks = (flagColumns c m).map (stateName c)
  /-- set from the key of the column, -/
  raised : gaps .raised marks =
    (flagColumns c m).map fun a => stateName c a ++ " = initial['" ++ a.name.display
  /-- and used by a switch. -/
  switches : pairs .switchTile .switched marks =
    (flagColumns c m).map fun a => ("", some (stateName c a))
  /-- The dates are what can be tapped, -/
  tapped : gaps .tapped marks = (dateColumns c m).map pickerName
  /-- and each of them has a method that lets it be picked. -/
  pickers : gaps .picker marks = (dateColumns c m).map pickerName
  /-- All of this stands in the methods in which it belongs. -/
  inPlace : InPlace none marks

end

/-! ### What the sections say -/

section

variable (c : Context) (a : Attribute)

/-- What is said where a member is declared, -/
@[simp] def declarationMarks : List Mark :=
  if a.target = .bool then [⟨.flag, stateName c a⟩] else [⟨.controller, stateName c a⟩]

/-- where it is set, -/
@[simp] def settingMarks : List Mark :=
  if a.target = .bool then [⟨.raised, stateName c a ++ " = initial['" ++ a.name.display⟩]
  else [⟨.assigned, stateName c a⟩, ⟨.begun, a.name.display⟩]

/-- and where a tile is shown. -/
@[simp] def tileMarks : List Mark :=
  if a.target = .bool then [⟨.switchTile, ""⟩, ⟨.switched, stateName c a⟩]
  else [⟨.textField, ""⟩, ⟨.entered, stateName c a⟩] ++
    (if a.target = .datetime then [⟨.tapped, pickerName a⟩] else []) ++
    (if a.nullable then [] else [⟨.validated, "Please enter " ++ labelOf a⟩])

theorem reads_declarationOf : Reads (declarationOf c a) (declarationMarks c a) := by
  unfold declarationOf declaring declarationMarks
  split_ifs <;> exact .take_gap rfl rfl rfl .nil

theorem reads_settingLines : Reads (settingLines c a) (settingMarks c a) := by
  unfold settingLines settingMarks
  split_ifs
  · have hgap : "    _" ++ stateName c a ++ " = initial['" ++ a.name.display =
        "    _" ++ (stateName c a ++ " = initial['" ++ a.name.display) := by
      simp only [String.append_assoc]
    rw [hgap]
    exact .take_gap rfl rfl rfl .nil
  · exact .take_gap rfl rfl rfl (.take_gap rfl rfl rfl (.skip rfl rfl .nil))

theorem reads_disposalOf : Reads (disposalOf c a) [⟨.disposed, stateName c a⟩] :=
  .take_gap rfl rfl rfl .nil

theorem reads_switchLines :
    Reads (switchLines c a) [⟨.switchTile, ""⟩, ⟨.switched, stateName c a⟩] := by
  -- The line behind the flag names it, too, but not as what a switch shows.
  have hend : Reads ((switchLines c a).drop 3) [] :=
    .skip_gap rfl rfl rfl (.skip rfl rfl .nil)
  exact .take rfl rfl (.skip_gap rfl rfl rfl (.take_gap rfl rfl rfl hend))

theorem reads_keyboardLines : Reads (keyboardLines a)
    (if a.target = .datetime then [⟨.tapped, pickerName a⟩] else []) := by
  unfold keyboardLines
  cases a.target with
  | datetime => exact .skip rfl rfl (.take_gap rfl rfl rfl .nil)
  | int | double => exact .skip rfl rfl .nil
  | bool | json | string => exact .nil

theorem reads_validatorLines : Reads (validatorLines a)
    (if a.nullable then [] else [⟨.validated, "Please enter " ++ labelOf a⟩]) := by
  unfold validatorLines
  split_ifs
  · exact .nil
  · exact .skip rfl rfl (.take_gap rfl rfl rfl .nil)

theorem reads_textFieldLines : Reads (textFieldLines c a)
    ([⟨.textField, ""⟩, ⟨.entered, stateName c a⟩] ++
      (if a.target = .datetime then [⟨.tapped, pickerName a⟩] else []) ++
      (if a.nullable then [] else [⟨.validated, "Please enter " ++ labelOf a⟩])) := by
  have hicon : Reads (if a.target = .datetime then
      ["              suffixIcon: Icon(Icons.calendar_today),"] else []) [] := by
    split_ifs
    · exact .skip rfl rfl .nil
    · exact .nil
  have hlabel : Reads (((textFieldLines c a).drop 2).take 3) [] :=
    .skip rfl rfl (.skip_gap rfl rfl rfl (.skip rfl rfl .nil))
  have hbegin : Reads ((textFieldLines c a).take 5) [⟨.textField, ""⟩, ⟨.entered, stateName c a⟩] :=
    .take rfl rfl (.take_gap rfl rfl rfl hlabel)
  have hclosed : Reads ["            ),"] [] := .skip rfl rfl .nil
  have hdecoration := (hbegin.append_quiet hicon).append_quiet hclosed
  have hvalidated := (hdecoration.append (reads_keyboardLines a)).append (reads_validatorLines a)
  exact hvalidated.append_quiet (.skip rfl rfl .nil)

theorem reads_tileLines : Reads (tileLines c a) (tileMarks c a) := by
  refine .append_quiet ?_ (.skip rfl rfl .nil)
  unfold tileMarks
  by_cases hflag : a.target = .bool
  · rw [if_pos hflag, if_pos hflag]
    exact reads_switchLines c a
  · rw [if_neg hflag, if_neg hflag]
    exact reads_textFieldLines c a

theorem reads_pickerLines : Reads (pickerLines c a) [⟨.picker, pickerName a⟩] := by
  have hpicked : Reads ((pickerLines c a).drop 9) [] :=
    .skip_gap rfl rfl rfl (.skip rfl rfl (.skip rfl rfl .nil))
  have hdialog : Reads ((pickerLines c a).drop 2) [] := by
    repeat refine .skip rfl rfl ?_
    exact hpicked
  exact .take_gap rfl rfl rfl (.skip_gap rfl rfl rfl hdialog)

end

/-! ### What the class says -/

section

variable (c : Context) (m : Model)

/-- What the lines behind the first one say, method by method. -/
def stateMarksOf : List Mark :=
  (editable c m).flatMap (declarationMarks c) ++
  ⟨.method, "initState"⟩ :: ((editable c m).flatMap (settingMarks c) ++
  ⟨.method, "dispose"⟩ :: (((textColumns c m).flatMap fun a => [⟨.disposed, stateName c a⟩]) ++
  ⟨.method, "build"⟩ :: ((editable c m).flatMap (tileMarks c) ++
  (((dateColumns c m).flatMap fun a => [⟨.picker, pickerName a⟩]) ++
  [⟨.method, "_validateForm"⟩, ⟨.method, "_submitForm"⟩, ⟨.method, "_buildFormData"⟩]))))

theorem reads_memberLines :
    Reads (memberLines c m) ((editable c m).flatMap (declarationMarks c)) :=
  .quiet_append (.skip rfl rfl .nil) (.flatMap (reads_declarationOf c))

theorem reads_beginningLines : Reads (beginningLines c m)
    (⟨.method, "initState"⟩ :: (editable c m).flatMap (settingMarks c)) := by
  have hhead : Reads ["  @override", "  void initState() \x7b", "    super.initState();"]
      [⟨.method, "initState"⟩] := .skip rfl rfl (.take rfl rfl (.skip rfl rfl .nil))
  have hinitial : Reads (if editable c m = [] then [] else
      ["    final initial = widget.initialData ?? const <String, dynamic>\x7b\x7d;"]) [] := by
    split_ifs
    · exact .nil
    · exact .skip rfl rfl .nil
  have hset : Reads ((editable c m).flatMap (settingLines c))
      ((editable c m).flatMap (settingMarks c)) := .flatMap (reads_settingLines c)
  exact ((hhead.append_quiet hinitial).append hset).append_quiet (.skip rfl rfl .nil)

theorem reads_endLines : Reads (endLines c m)
    (⟨.method, "dispose"⟩ :: (textColumns c m).flatMap fun a => [⟨.disposed, stateName c a⟩]) := by
  have hhead : Reads ["  @override", "  void dispose() \x7b"] [⟨.method, "dispose"⟩] :=
    .skip rfl rfl (.take rfl rfl .nil)
  refine (hhead.append (.flatMap (reads_disposalOf c))).append_quiet ?_
  exact .skip rfl rfl (.skip rfl rfl .nil)

theorem reads_buildLines : Reads (buildLines c m)
    (⟨.method, "build"⟩ :: (editable c m).flatMap (tileMarks c)) := by
  have hhead : Reads ((buildLines c m).take 6) [⟨.method, "build"⟩] := by
    refine .skip rfl rfl (.take rfl rfl ?_)
    repeat refine .skip rfl rfl ?_
    exact .nil
  refine (hhead.append (.flatMap (reads_tileLines c))).append_quiet ?_
  repeat refine .skip rfl rfl ?_
  exact .nil

/-- There are three methods behind the tiles, of which only the names are read. -/
theorem reads_submitLines : Reads submitLines
    [⟨.method, "_validateForm"⟩, ⟨.method, "_submitForm"⟩, ⟨.method, "_buildFormData"⟩] := by
  have hgather : Reads (submitLines.drop 11) [⟨.method, "_buildFormData"⟩] := by
    refine .take rfl rfl ?_
    repeat refine .skip rfl rfl ?_
    exact .nil
  have hsubmit : Reads (submitLines.drop 4)
      [⟨.method, "_submitForm"⟩, ⟨.method, "_buildFormData"⟩] := by
    refine .take rfl rfl ?_
    repeat refine .skip rfl rfl ?_
    exact hgather
  refine .take rfl rfl ?_
  repeat refine .skip rfl rfl ?_
  exact hsubmit

/-- **What the lines of the class say.** -/
theorem reads_stateLines : Reads (stateLines c m).tail (stateMarksOf c m) := by
  have hpickers : Reads ((dateColumns c m).flatMap fun a => "" :: pickerLines c a)
      ((dateColumns c m).flatMap fun a => [⟨.picker, pickerName a⟩]) :=
    .flatMap fun a => .skip rfl rfl (reads_pickerLines c a)
  have hbegun := (reads_memberLines c m).apart (reads_beginningLines c m)
  have hbuilt := (hbegun.apart (reads_endLines c m)).apart (reads_buildLines c m)
  have hsubmitted := (hbuilt.append hpickers).apart reads_submitLines
  have hclosed : Reads ["\x7d"] [] := .skip rfl rfl .nil
  refine (hsubmitted.append_quiet hclosed).trans ?_
  simp only [stateMarksOf, List.append_assoc, List.cons_append]

/-! ### Agreement -/

section Kept

variable {α β : Type}

@[simp] theorem flatMap_nothing (xs : List α) : (xs.flatMap fun _ => ([] : List β)) = [] := by
  induction xs with
  | nil => rfl
  | cons x xs ih => rw [List.flatMap_cons, ih, List.nil_append]

/-- One thing for each item that is kept. -/
theorem flatMap_kept (xs : List α) (kept : α → Bool) (f : α → β) :
    (xs.flatMap fun x => if kept x then [f x] else []) = (xs.filter kept).map f := by
  induction xs with
  | nil => rfl
  | cons x xs ih =>
      rw [List.flatMap_cons, ih, List.filter_cons]
      cases kept x <;> rfl

end Kept

section

variable {β : Type} (f : Attribute → β)

theorem flatMap_flagColumns : ((editable c m).flatMap fun a =>
    if a.target = .bool then [f a] else []) = (flagColumns c m).map f := by
  rw [flagColumns, ← flatMap_kept]
  simp only [beq_iff_eq]

theorem flatMap_textColumns : ((editable c m).flatMap fun a =>
    if a.target = .bool then [] else [f a]) = (textColumns c m).map f := by
  rw [textColumns, ← flatMap_kept]
  simp only [bne_iff_ne, ne_eq, ite_not]

/-- A date is edited as a text. -/
theorem flatMap_dateColumns : ((editable c m).flatMap fun a =>
    if a.target = .bool then [] else if a.target = .datetime then [f a] else []) =
      (dateColumns c m).map f := by
  rw [dateColumns, ← flatMap_kept]
  congr
  funext a
  cases a.target <;> rfl

end

/-- The controllers are assigned from the keys of their columns. -/
theorem pairs_assigned : pairs .assigned .begun (stateMarksOf c m) =
    (textColumns c m).map fun a => (stateName c a, some a.name.display) := by
  have hset (a : Attribute) (rest : List Mark) :
      pairs .assigned .begun (settingMarks c a ++ rest) =
        (if a.target = .bool then [] else [(stateName c a, some a.name.display)]) ++
          pairs .assigned .begun rest := by
    unfold settingMarks
    split_ifs
    · exact pairs_cons_of_ne LineKind.noConfusion rest
    · exact pairs_cons_pair (by decide) ..
  rw [stateMarksOf, pairs_append_of_gaps (by simp), pairs_cons_of_ne (by decide),
    pairs_flatMap hset, pairs_of_gaps (by simp), List.append_nil, flatMap_textColumns]

/-- The flags are used by switches. -/
theorem pairs_switched : pairs .switchTile .switched (stateMarksOf c m) =
    (flagColumns c m).map fun a => ("", some (stateName c a)) := by
  have htile (a : Attribute) (rest : List Mark) :
      pairs .switchTile .switched (tileMarks c a ++ rest) =
        (if a.target = .bool then [("", some (stateName c a))] else []) ++
          pairs .switchTile .switched rest := by
    unfold tileMarks
    split_ifs
    · exact pairs_cons_pair (by decide) ..
    all_goals exact pairs_append_of_gaps (by simp) rest
  rw [stateMarksOf, pairs_append_of_gaps (by simp), pairs_cons_of_ne (by decide),
    pairs_append_of_gaps (by simp), pairs_cons_of_ne (by decide), pairs_append_of_gaps (by simp),
    pairs_cons_of_ne (by decide), pairs_flatMap htile, pairs_of_gaps (by simp), List.append_nil,
    flatMap_flagColumns]

/-- The controllers are used by text fields. -/
theorem textFields_stateMarksOf : textFields (stateMarksOf c m) =
    (textColumns c m).map fun a =>
      { controllers := [stateName c a]
        handlers := if a.target = .datetime then [pickerName a] else []
        messages := if a.nullable then [] else ["Please enter " ++ labelOf a] } := by
  have hdeclared := foldr_gather_of_none (editable c m) (declarationMarks c)
    fun a _ => by unfold declarationMarks; split_ifs <;> rfl
  have hset := foldr_gather_of_none (editable c m) (settingMarks c)
    fun a _ => by unfold settingMarks; split_ifs <;> rfl
  have hdisposed := foldr_gather_of_none (textColumns c m)
    (fun a => [⟨.disposed, stateName c a⟩]) fun _ _ => rfl
  have hpicked := foldr_gather_of_none (dateColumns c m)
    (fun a => [⟨.picker, pickerName a⟩]) fun _ _ => rfl
  have htiles := foldr_gather_flatMap (editable c m) (tileMarks c)
    (fun a => if a.target = .bool then [] else [
      { controllers := [stateName c a]
        handlers := if a.target = .datetime then [pickerName a] else []
        messages := if a.nullable then [] else ["Please enter " ++ labelOf a] }])
    fun a fields => by unfold tileMarks; split_ifs <;> rfl
  simp only [textFields, stateMarksOf, List.foldr_append, List.foldr_cons, List.foldr_nil, gather,
    hdeclared, hset, hdisposed, hpicked, htiles, List.append_nil, flatMap_textColumns]

/-- Every line stands in the method in which it belongs. -/
theorem inPlace_stateMarksOf : InPlace none (stateMarksOf c m) := by
  have hbehind (place : Option String) : InPlace place
      (((dateColumns c m).flatMap fun a => [⟨.picker, pickerName a⟩]) ++
        [⟨.method, "_validateForm"⟩, ⟨.method, "_submitForm"⟩, ⟨.method, "_buildFormData"⟩]) := by
    induction dateColumns c m generalizing place with
    | nil => exact .method (.method (.method trivial))
    | cons a as ih => exact .picker (ih _)
  refine .flatMap (fun a => ?_) (.method ?_)
  · unfold declarationMarks
    split_ifs <;> simp [LineKind.place]
  refine .flatMap (fun a => ?_) (.method ?_)
  · unfold settingMarks
    split_ifs <;> simp [LineKind.place]
  refine .flatMap (fun a => ?_) (.method ?_)
  · simp [LineKind.place]
  refine .flatMap (fun a => ?_) (hbehind _)
  unfold tileMarks
  split_ifs <;> simp [LineKind.place]

/-- What is read from the lines of the class agrees with the columns that are edited. -/
theorem managesControls_stateLines : ManagesControls c m (readLines (stateLines c m).tail) := by
  rw [reads_stateLines]
  exact {
    declared := by simp [stateMarksOf, flatMap_textColumns]
    assigned := pairs_assigned c m
    disposed := by simp [stateMarksOf, List.map_eq_flatMap]
    fields := textFields_stateMarksOf c m
    flags := by simp [stateMarksOf, flatMap_flagColumns]
    raised := by simp [stateMarksOf, flatMap_flagColumns]
    switches := pairs_switched c m
    tapped := by simp [stateMarksOf, flatMap_dateColumns]
    pickers := by simp [stateMarksOf, List.map_eq_flatMap]
    inPlace := inPlace_stateMarksOf c m }

/-- The class begins once. -/
theorem gaps_opening_stateMarksOf : gaps .opening (stateMarksOf c m) = [] := by
  simp [stateMarksOf]

/-- **The lines of the class, behind whatever stands in front of it.** -/
theorem stateMarks_stateLines {front : List String}
    (hlines : ∀ l ∈ front ++ stateLines c m, Unbroken l) :
    stateMarks (unlines (front ++ stateLines c m)) = stateMarksOf c m := by
  have hopening : readLine ("class _" ++ formName c m ++ "State extends State<" ++ formName c m ++
      "> \x7b").toList =
        some ⟨.opening, formName c m ++ "State extends State<" ++ formName c m⟩ := by
    have hgap : "class _" ++ formName c m ++ "State extends State<" ++ formName c m =
        "class _" ++ (formName c m ++ "State extends State<" ++ formName c m) := by
      simp only [String.append_assoc]
    rw [hgap]
    exact readLine_of_candidates rfl rfl (by decide) _
  have hsplit : stateLines c m = ("class _" ++ formName c m ++ "State extends State<" ++
      formName c m ++ "> \x7b") :: (stateLines c m).tail := rfl
  rw [hsplit] at hlines ⊢
  rw [stateMarks_unlines hlines hopening, reads_stateLines]
  intro mark hmark
  rw [reads_stateLines] at hmark
  exact ne_of_gaps_eq_nil (gaps_opening_stateMarksOf c m) hmark

end

/-! ### Generators -/

namespace Generator

variable {settings : Settings} {g : Generator} {tree : FileTree}

/-- **The form manages its controls consistently.**  If the names of the columns are on one line, a
generator of widgets that finds the built-in template, however often it was used before, generates a
form.  Read from its text, the controllers that are declared, assigned, disposed of and used by text
fields are those of the texts, in the order of the columns; the flags that are declared, set and
used by switches are those of the truth values; the methods that are called by a tap and those that
are defined are those of the dates; the columns that must have a value are the ones validated; and
all of it stands in the method in which it belongs. -/
theorem generate_controls {s made : Session}
    (hmake : (make .widget settings).run.run s = (.ok g, made)) (before : FileTree)
    (uses : List Use) {m : Model}
    (hm : ∀ column ∈ m.attributes, Unbroken column.2.name.display)
    (htemplate : (g.after before uses).templateOf tree (.widget .form) = .ok formTemplate)
    {options : Datum} (hoptions : Artifact.ofOptions .widget options = .ok (.widget .form)) :
    ∃ text, ((g.after before uses).generate tree m options).text = .ok text ∧
      ManagesControls ⟨settings, ((g.after before uses).learn m).names⟩ m (stateMarks text) := by
  have hafter := isFor_after (isFor_make hmake) before uses
  have hcontext : ((g.after before uses).learn m).context =
      ⟨settings, ((g.after before uses).learn m).names⟩ := by
    rw [context, (hafter.learn m).settings]
  have hfile : (g.after before uses).generate tree m options =
      (g.after before uses).generateFile tree m (.widget .form) := by
    unfold Generator.generate
    rw [hafter.component, hoptions]
  obtain ⟨front, hfront, htext⟩ := exists_generateFile_form hafter.names hm htemplate
  rw [← hcontext]
  refine ⟨_, (congrArg Generated.text hfile).trans htext, ?_⟩
  have heditable : ∀ a ∈ editable ((g.after before uses).learn m).context m,
      Unbroken a.name.display := by
    intro a ha
    obtain ⟨name, hcolumn, -⟩ := (Context.mem_included _ m a).1 (List.mem_filter.1 ha).1
    exact hm _ hcolumn
  have hstate := (isLaid_stateLines (hafter.learn m).names heditable).unbroken
  rw [stateMarks_stateLines _ _ (List.forall_mem_append.2 ⟨hfront, hstate⟩), ← reads_stateLines]
  exact managesControls_stateLines _ m

/-- A model with columns of all kinds, of which some are left out or not edited. -/
def invoiceModel : Model :=
  let column (name : String) (target : ColumnType) (nullable : Bool) : Datum × Attribute :=
    (.text name, ⟨.text name, target, .text "", nullable, .null⟩)
  { (default : Model) with
    className := "Invoice", table := .text "invoices"
    attributes := [column "id" .int false, column "title" .string false,
      column "password" .string false, column "paid" .bool false, column "due_at" .datetime true,
      column "total" .double false, column "created_at" .datetime true] }

example : (editable ⟨.standard, sanitizer.names⟩ invoiceModel).map (·.name.display) =
    ["title", "paid", "due_at", "total"] := by
  decide +kernel

/-- The form of a model, after its description was asked for. -/
theorem generate_controls_invoice :
    let s := Session.start .empty [] Web.unreachable
    (∀ column ∈ invoiceModel.attributes, Unbroken column.2.name.display) ∧
      Artifact.ofOptions .widget .null = .ok (.widget .form) ∧
      ∃ g made, (make .widget .standard).run.run s = (.ok g, made) ∧
        let used := g.after .empty [.specify invoiceModel .null]
        used.templateOf .empty (.widget .form) = .ok formTemplate ∧
          ∃ text, (used.generate .empty invoiceModel .null).text = .ok text ∧
            ManagesControls ⟨.standard, (used.learn invoiceModel).names⟩ invoiceModel
              (stateMarks text) := by
  intro s
  have hlines : ∀ column ∈ invoiceModel.attributes, Unbroken column.2.name.display := by
    simp only [invoiceModel, List.forall_mem_cons]
    exact ⟨by decide, by decide, by decide, by decide, by decide, by decide, by decide,
      List.forall_mem_nil _⟩
  refine ⟨hlines, rfl, _, _, rfl, ?_⟩
  have hbuiltin : UsesBuiltin .widget .standard _ := usesBuiltin_make (s := s) rfl rfl
  have htemplate := (usesBuiltin_after hbuiltin .empty
    [.specify invoiceModel .null]).templateOf_eq rfl .empty (.widget .form)
  exact ⟨htemplate, generate_controls (s := s) rfl .empty [.specify invoiceModel .null] hlines
    htemplate rfl⟩

end Generator

end DartScaffold.Dart
