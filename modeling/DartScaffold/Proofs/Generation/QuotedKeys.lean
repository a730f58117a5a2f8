/-
**The names of columns in quotes.**

Data classes and forms are read from and written to JSON, where a column has its own name.  So that
name stands between quotes at several places of a file: in annotations, where a data class reads and
writes its fields, and where a form sets its members.  At each of these places the name is put
between the quotes as it is.  So what stands there reads back as the name just if every character of
the name stands for itself, that is, if the name has no quote, no dollar sign, no backslash and no
line break.  The other names break the code, or the code asks for another column.

Main definitions:

* `Dart.Place`, `Dart.Chunk`, `Dart.spell` — the places of keys, and a text in parts with the keys
  told apart;
* `Dart.classChunks`, `Dart.formChunks` — the parts of a data class and of a form;
* `Dart.Quotes` — a text is laid out from its parts, and at each key the name is read back just if
  it is plain.

Main results:

* `Dart.spell_classChunks`, `Dart.spell_formChunks` — the parts are those of the lines;
* `Dart.keys_classChunks`, `Dart.keys_formChunks` — which names stand between quotes, in order;
* `Dart.readQuoted_layRest` — **what is read behind an opening quote**;
* `Dart.Generator.generate_quotes` — **a key in a generated file reads back as the name of its
  column just if the name is plain**.
-/

import DartScaffold.Proofs.Generation.FormText
import DartScaffold.Proofs.Generation.LayoutAround
import DartScaffold.Proofs.Generation.QuotedText

set_option relaxedAutoImplicit false
set_option autoImplicit false

namespace DartScaffold.Dart

open Text (isBlank trimEnd unlines Unbroken)

/-! ### Keys -/

/-- Where the name of a column stands between quotes: in an annotation, where its value is read,
where it is written, and where a form takes what it begins with. -/
inductive Place where
  | annotated
  | reading
  | entry
  | initial
deriving DecidableEq, Repr

/-- What stands in front of the first quote. -/
def Place.opening : Place → String
  | .annotated => "  @JsonKey(name: "
  | .reading => "json["
  | .entry => "      "
  | .initial => "initial["

theorem Place.unbroken_opening (p : Place) : Unbroken p.opening := by
  cases p <;> exact .of_chars rfl rfl

/-- A part of a file: some code, or the name of a column between quotes. -/
inductive Chunk where
  | code (s : String)
  | key (place : Place) (name : String)
deriving DecidableEq, Repr

/-- The text of a part. -/
def Chunk.spelled : Chunk → String
  | .code s => s
  | .key place name => place.opening ++ "'" ++ name ++ "'"

/-- The place and the name of a key. -/
def Chunk.key? : Chunk → Option (Place × String)
  | .code _ => none
  | .key place name => some (place, name)

/-- The text of the parts. -/
def spell : List Chunk → String
  | [] => ""
  | chunk :: rest => chunk.spelled ++ spell rest

/-- The keys among the parts. -/
def keys (chunks : List Chunk) : List (Place × String) := chunks.filterMap Chunk.key?

theorem spell_append (chunks more : List Chunk) :
    spell (chunks ++ more) = spell chunks ++ spell more := by
  induction chunks with
  | nil => simp [spell]
  | cons chunk chunks ih => simp [spell, ih, String.append_assoc]

theorem keys_append (chunks more : List Chunk) : keys (chunks ++ more) = keys chunks ++ keys more :=
  List.filterMap_append

/-- Parts for each of some items are the lines for each of them, if they are for one. -/
theorem spell_flatMap {α : Type} {f : α → List Chunk} {g : α → List String} {xs : List α}
    (h : ∀ x, spell (f x) = unlines (g x)) : spell (xs.flatMap f) = unlines (xs.flatMap g) := by
  induction xs with
  | nil => rfl
  | cons x xs ih => rw [List.flatMap_cons, List.flatMap_cons, spell_append, h, ih,
      Text.unlines_append]

theorem keys_flatMap {α : Type} (f : α → List Chunk) (xs : List α) :
    keys (xs.flatMap f) = xs.flatMap fun x => keys (f x) :=
  List.filterMap_flatMap

/-- Lines without keys. -/
def lineChunks (ls : List String) : List Chunk := ls.map fun l => .code (l ++ "\n")

theorem spell_lineChunks (ls : List String) : spell (lineChunks ls) = unlines ls := by
  induction ls with
  | nil => rfl
  | cons l ls ih => exact congrArg _ ih

theorem keys_lineChunks (ls : List String) : keys (lineChunks ls) = [] := by
  rw [keys, lineChunks, List.filterMap_map]
  exact List.filterMap_eq_nil_iff.2 fun _ _ => rfl

/-! ### The parts of a data class -/

section

variable (mark word : String) (c : Context) (a : Attribute) (m : Model)

/-- The name in the annotation of a field. -/
def annotationChunks : List Chunk :=
  if c.annotated then [.key .annotated a.name.display, .code ")\n"] else []

/-- The field of a column is declared. -/
def declarationChunks : List Chunk := annotationChunks c a ++ lineChunks (fieldLinesWith mark c a)

/-- The value of a column is read; a date that may be missing is looked at first. -/
def valueChunks (key : Chunk) (target : ColumnType) (nullable : Bool) : List Chunk :=
  match target, nullable with
  | .datetime, true => [key, .code "] != null ? DateTime.parse(", key, .code "] as String) : null"]
  | .datetime, false => [.code "DateTime.parse(", key, .code "] as String)"]
  | .int, true => [.code "(", key, .code ("] as num" ++ mark ++ ")?.toInt()")]
  | .int, false => [.code "(", key, .code "] as num).toInt()"]
  | .double, true => [.code "(", key, .code ("] as num" ++ mark ++ ")?.toDouble()")]
  | .double, false => [.code "(", key, .code "] as num).toDouble()"]
  | t, true => [key, .code ("] as " ++ typeOf t ++ mark)]
  | t, false => [key, .code ("] as " ++ typeOf t)]

/-- How often the value of a column is asked for. -/
def askings (target : ColumnType) (nullable : Bool) : Nat :=
  if target = .datetime ∧ nullable = true then 2 else 1

/-- The field is read. -/
def readingChunks : List Chunk :=
  .code ("      " ++ c.names.field a.name ++ ": ") ::
    (valueChunks mark (.key .reading a.name.display) a.target a.nullable ++ [.code ",\n"])

/-- The field is written. -/
def writingChunks : List Chunk :=
  [.key .entry a.name.display,
    .code (": " ++ Field.writing (c.names.field a.name) a.target a.nullable ++ ",\n")]

/-- Reading from and writing to JSON. -/
def jsonChunks : List Chunk :=
  if c.annotated then lineChunks (jsonLinesWith mark c m)
  else
    lineChunks ["  factory " ++ c.typeName m ++ ".fromJson(Map<String, dynamic> json) \x7b",
      "    return " ++ c.typeName m ++ "("] ++ (c.included m).flatMap (readingChunks mark c) ++
    lineChunks ["    );", "  \x7d", "", "  Map<String, dynamic> toJson() \x7b",
      "    return \x7b"] ++ (c.included m).flatMap (writingChunks c) ++
    lineChunks ["    \x7d;", "  \x7d"]

/-- The parts of a data class. -/
def classChunks : List Chunk :=
  lineChunks ((dataClass c m).imports ++ partLines c m ++ [""] ++ introductionLines c m ++
    ["class " ++ c.typeName m ++ " \x7b"]) ++
  (c.included m).flatMap (declarationChunks c.mark c) ++
  lineChunks (constructorLinesWith (dataClass c m).requiredWord c m ++ [""]) ++
  jsonChunks c.mark c m ++
  lineChunks ([""] ++ copyLinesWith c.mark c m ++ [""] ++ shownLines c m ++ [""] ++
    equalityLines c m ++ [""] ++ hashLines c m ++ ["\x7d"])

/-- The keys of a data class: with annotations one for each column, and else those that are asked
for, and then those that are written. -/
def classKeys : List (Place × String) :=
  if c.annotated then (c.included m).map fun a => (.annotated, a.name.display)
  else
    ((c.included m).flatMap fun a =>
      List.replicate (askings a.target a.nullable) (.reading, a.name.display)) ++
    (c.included m).map fun a => (.entry, a.name.display)

theorem spell_valueChunks (key : String) (target : ColumnType) (nullable : Bool) :
    spell (valueChunks mark (.key .reading key) target nullable) =
      Field.reading mark key target nullable := by
  refine String.toList_injective ?_
  cases target <;> cases nullable <;>
    simp [spell, valueChunks, Chunk.spelled, Place.opening, Field.reading]

theorem keys_valueChunks (key : String) (target : ColumnType) (nullable : Bool) :
    keys (valueChunks mark (.key .reading key) target nullable) =
      List.replicate (askings target nullable) (.reading, key) := by
  cases target <;> cases nullable <;> rfl

theorem spell_declarationChunks :
    spell (declarationChunks mark c a) = unlines (declarationLinesWith mark c a) := by
  have hname : spell (annotationChunks c a) = unlines (if c.annotated then
      ["  @JsonKey(name: '" ++ a.name.display ++ "')"] else []) := by
    unfold annotationChunks
    split_ifs
    · refine String.toList_injective ?_
      simp [spell, Chunk.spelled, Place.opening, unlines]
    · rfl
  rw [declarationChunks, spell_append, hname, spell_lineChunks, ← Text.unlines_append]
  rfl

theorem spell_readingChunks :
    spell (readingChunks mark c a) = unlines [readingLineWith mark c a] := by
  rw [readingChunks, spell, spell_append, spell_valueChunks, readingLineWith, unlines]
  refine String.toList_injective ?_
  simp [spell, Chunk.spelled, unlines]

theorem spell_writingChunks : spell (writingChunks c a) = unlines [writingLine c a] := by
  refine String.toList_injective ?_
  simp [spell, writingChunks, Chunk.spelled, Place.opening, writingLine, unlines]

theorem spell_jsonChunks : spell (jsonChunks mark c m) = unlines (jsonLinesWith mark c m) := by
  unfold jsonChunks
  split_ifs with hannotated
  · exact spell_lineChunks _
  · rw [jsonLinesWith, if_neg hannotated]
    simp only [spell_append, spell_lineChunks, Text.unlines_append, List.map_eq_flatMap]
    rw [spell_flatMap (spell_readingChunks mark c), spell_flatMap (spell_writingChunks c)]

/-- **The parts of a data class are those of its lines.** -/
theorem spell_classChunks : spell (classChunks c m) =
    unlines (filledLinesWith c.mark (dataClass c m).requiredWord c m) := by
  rw [classChunks, filledLinesWith, classLinesWith]
  simp only [spell_append, spell_lineChunks, spell_jsonChunks,
    spell_flatMap (spell_declarationChunks c.mark c), Text.unlines_append, String.append_assoc]

/-- The names that stand between quotes in a data class, in order. -/
theorem keys_classChunks : keys (classChunks c m) = classKeys c m := by
  have hdeclared : ∀ a, keys (declarationChunks c.mark c a) =
      if c.annotated then [(.annotated, a.name.display)] else [] := by
    intro a
    rw [declarationChunks, keys_append, keys_lineChunks, List.append_nil, annotationChunks]
    split_ifs <;> rfl
  have hread : ∀ a, keys (readingChunks c.mark c a) =
      List.replicate (askings a.target a.nullable) (.reading, a.name.display) := by
    intro a
    show keys (valueChunks c.mark (.key .reading a.name.display) a.target a.nullable ++
      [.code ",\n"]) = _
    rw [keys_append, keys_valueChunks]
    exact List.append_nil _
  simp only [classChunks, keys_append, keys_lineChunks, keys_flatMap, hdeclared, List.append_nil,
    List.nil_append, jsonChunks, classKeys]
  split_ifs
  · rw [keys_lineChunks, List.append_nil, List.map_eq_flatMap]
  · simp only [keys_append, keys_lineChunks, keys_flatMap, hread, List.append_nil, List.nil_append,
      List.map_eq_flatMap]
    rw [List.flatMap_eq_nil_iff.2 fun _ _ => rfl, List.nil_append]
    rfl

/-! ### The parts of a form -/

/-- A member is set to what the form begins with. -/
def settingChunks : List Chunk :=
  if a.target = .bool then
    [.code ("    _" ++ stateName c a ++ " = "), .key .initial a.name.display,
      .code "] == true;\n"]
  else
    [.code ("    _" ++ stateName c a ++ " = TextEditingController(\n      text: "),
      .key .initial a.name.display, .code "]?.toString() ?? '',\n    );\n"]

/-- The parts of a form. -/
def formChunks : List Chunk :=
  lineChunks (widgetLines c m ++
    ["class _" ++ formName c m ++ "State extends State<" ++ formName c m ++ "> \x7b"] ++
    memberLines c m ++ [""] ++
    ["  @override", "  void initState() \x7b", "    super.initState();"] ++
    (if editable c m = [] then []
      else ["    final initial = widget.initialData ?? const <String, dynamic>\x7b\x7d;"])) ++
  (editable c m).flatMap (settingChunks c) ++
  lineChunks (["  \x7d"] ++ [""] ++ endLines c m ++ [""] ++ buildLines c m ++
    ((editable c m).filter (·.target == .datetime)).flatMap (fun a => "" :: pickerLines c a) ++
    [""] ++ submitLines ++ ["\x7d"])

/-- The keys of a form: one for each column that is edited. -/
def formKeys : List (Place × String) :=
  (editable c m).map fun a => (.initial, a.name.display)

theorem spell_settingChunks : spell (settingChunks c a) = unlines (settingLines c a) := by
  refine String.toList_injective ?_
  unfold settingChunks settingLines
  split_ifs <;> simp [spell, Chunk.spelled, Place.opening, unlines]

/-- **The parts of a form are those of its lines.** -/
theorem spell_formChunks :
    spell (formChunks c m) = unlines (widgetLines c m ++ stateLines c m) := by
  rw [formChunks, stateLines, beginningLines]
  simp only [spell_append, spell_lineChunks, spell_flatMap (spell_settingChunks c),
    Text.unlines_append, String.append_assoc]

/-- The names that stand between quotes in a form, in order. -/
theorem keys_formChunks : keys (formChunks c m) = formKeys c m := by
  have hset : ∀ a, keys (settingChunks c a) = [(.initial, a.name.display)] := by
    intro a
    unfold settingChunks
    split_ifs <;> rfl
  rw [formChunks, keys_append, keys_append, keys_lineChunks, keys_lineChunks, keys_flatMap,
    formKeys, List.map_eq_flatMap]
  simp only [hset, List.nil_append, List.append_nil]

end

/-! ### Reading keys -/

/-- **What is read behind an opening quote** is the name just if it is plain.  A line break in the
name stays in the text, and in front of it there is too little of the name. -/
theorem readQuoted_layRest (name after : String) :
    readQuoted .no (layRest (name ++ "'" ++ after)).toList = some (nameUnits name.toList) ↔
      ∀ c ∈ name.toList, isPlain c = true := by
  by_cases hline : Unbroken name
  · have hquoted : Unbroken (name ++ "'") := hline.append (.of_chars rfl rfl)
    obtain ⟨row, more, hrow⟩ := exists_rows_eq_cons after
    have hrows : rows (name ++ "'" ++ after) = (name.toList ++ '\'' :: row) :: more := by
      rw [rows_append_of_unbroken hquoted, hrow]
      simp
    obtain ⟨rest, hrest⟩ := exists_toList_layRest (name ++ "'" ++ after)
    rw [hrows, List.headD_cons, trimEnd_append_cons (by decide), List.append_assoc,
      List.cons_append] at hrest
    rw [hrest]
    exact readQuoted_eq_iff _ _
  · obtain ⟨ls, last, hls, hlast, rfl⟩ := exists_eq_unlines_append name
    cases ls with
    | nil => exact absurd (by rwa [unlines, String.empty_append]) hline
    | cons l ls =>
        have hname : (unlines (l :: ls) ++ last).toList =
            l.toList ++ '\n' :: ((unlines ls).toList ++ last.toList) := by
          rw [String.toList_append, Text.toList_unlines_cons, List.append_assoc, List.cons_append]
        refine ⟨fun h => ?_, fun h => absurd (h '\n' (by simp [hname])) (by decide)⟩
        have hsplit : unlines (l :: ls) ++ last ++ "'" ++ after =
            unlines (l :: ls) ++ (last ++ "'" ++ after) := by
          simp only [String.append_assoc]
        obtain ⟨rest, hrest⟩ := exists_toList_layRest (unlines (l :: ls) ++ last ++ "'" ++ after)
        have hfirst : (rows (unlines (l :: ls) ++ last ++ "'" ++ after)).headD [] = l.toList := by
          rw [hsplit, rows_unlines_append hls]
          rfl
        rw [hrest, hfirst] at h
        have hshort := length_of_readQuoted h
        obtain ⟨blanks, hblanks⟩ := trimEnd_prefix isBlank l.toList
        have hunits : (nameUnits l.toList).length =
            (nameUnits (trimEnd isBlank l.toList)).length + (nameUnits blanks).length := by
          rw [← List.length_append, ← nameUnits_append, hblanks]
        have hfeed := length_unitsOf_pos '\n'.toNat
        rw [hname, nameUnits_append, nameUnits_cons] at hshort
        simp only [List.length_append, Escape.weight] at hshort
        omega

/-- A text is laid out from its parts.  At each key it goes on, behind the opening quote, with the
layout of the name and of all that follows, and what is read there is the name just if it is
plain. -/
structure Quotes (text : String) (chunks : List Chunk) : Prop where
  laid : text = tidy (spell chunks)
  placed : ∀ before place name after, chunks = before ++ .key place name :: after →
    text = layFront (spell before) ++ place.opening ++ "'" ++ layRest (name ++ "'" ++ spell after)
  read : ∀ before place name after, chunks = before ++ .key place name :: after →
    (readQuoted .no (layRest (name ++ "'" ++ spell after)).toList = some (nameUnits name.toList) ↔
      ∀ c ∈ name.toList, isPlain c = true)

/-- Whatever the parts are, each key is read in its place. -/
theorem quotes_tidy_spell (chunks : List Chunk) : Quotes (tidy (spell chunks)) chunks where
  laid := rfl
  placed := by
    rintro before place name after rfl
    have hspelled : spell (before ++ .key place name :: after) =
        spell before ++ place.opening ++ String.singleton '\'' ++ (name ++ "'" ++ spell after) := by
      refine String.toList_injective ?_
      simp [spell_append, spell, Chunk.spelled]
    rw [hspelled, tidy_around (by decide), layFront_append _ place.unbroken_opening]
    rfl
  read := fun _ _ name after _ => readQuoted_layRest name (spell after)

/-! ### Generated files -/

/-- The parts of a file with keys. -/
def Artifact.chunks (c : Context) (m : Model) : Artifact → List Chunk
  | .dataClass => classChunks c m
  | .widget .form => formChunks c m
  | _ => []

/-- The keys of a file. -/
def Artifact.keys (c : Context) (m : Model) : Artifact → List (Place × String)
  | .dataClass => classKeys c m
  | .widget .form => formKeys c m
  | _ => []

namespace Generator

variable {g : Generator} {tree : FileTree} {m : Model}

/-- A form is laid out from its parts. -/
theorem generateFile_form (m : Model)
    (htemplate : g.templateOf tree (.widget .form) = .ok formTemplate) :
    (g.generateFile tree m (.widget .form)).text =
      .ok (tidy (spell (formChunks (g.learn m).context m))) := by
  show ((g.library.fill tree (g.templateName (Artifact.widget .form).templateStem)
    [("widget", (widget (g.learn m).context m .form).value)]).1).map tidy = _
  rw [fill_of_templateOf htemplate, textOf_form, spell_formChunks]
  rfl

/-- A data class is laid out from its parts, unless what the model declares cannot be put in
order. -/
theorem generateFile_chunks (m : Model)
    (htemplate : g.templateOf tree .dataClass = .ok dataClassTemplate) :
    (g.generateFile tree m .dataClass).text =
      match Context.problems m with
      | .error f => .error (.misuse f)
      | .ok _ => .ok (tidy (spell (classChunks (g.learn m).context m))) := by
  have htext : Template.Library.textOf (some (g.templateName "model")) dataClassTemplate
      [("model", (dataClass (g.learn m).context m).value)] =
        .ok (spell (classChunks (g.learn m).context m)) := by
    rw [spell_classChunks]
    refine Template.textOf_writes rfl _ fun v => writes_filledLinesWith ?_
    rw [Template.valueOf_put, if_neg (by decide)]
    rfl
  unfold Generator.generateFile
  show Generated.text (match Context.problems m with | .error f => _ | .ok warnings => _) = _
  cases Context.problems m with
  | error f => rfl
  | ok warnings =>
      show ((g.library.fill tree (g.templateName Artifact.dataClass.templateStem)
        [("model", (dataClass (g.learn m).context m).value)]).1).map tidy = _
      rw [fill_of_templateOf htemplate, Artifact.templateStem, htext]
      rfl

/-- **A key in a generated file reads back as the name of its column just if the name is plain.**
A generator of data classes or of widgets that finds the built-in template, however often it was
used before, puts the names of the columns between quotes as they are: those that are not left out
in a data class, and those that are edited in a form.  Each of them is found in the file behind its
opening quote, and a text in quotes that begins there stands for the name if the name has no quote,
no dollar sign, no backslash and no line break, and for something else or for nothing otherwise. -/
theorem generate_quotes {component : Component} {settings : Settings} {s made : Session}
    (hmake : (make component settings).run.run s = (.ok g, made)) (before : FileTree)
    (uses : List Use) {options : Datum} {a : Artifact}
    (ha : Artifact.ofOptions component options = .ok a)
    (hkeyed : a = .dataClass ∨ a = .widget .form)
    (htemplate : (g.after before uses).templateOf tree a = .ok a.template) :
    let c : Context := ⟨settings, ((g.after before uses).learn m).names⟩
    Dart.keys (a.chunks c m) = a.keys c m ∧
      ((∃ text, ((g.after before uses).generate tree m options).text = .ok text ∧
          Quotes text (a.chunks c m)) ∨
        a = .dataClass ∧ ∃ f, Context.problems m = .error f ∧
          ((g.after before uses).generate tree m options).text = .error (.misuse f)) := by
  have hafter := isFor_after (isFor_make hmake) before uses
  have hcontext := (hafter.learn m).context_eq
  intro c
  rw [hafter.generate_of_options ha]
  rcases hkeyed with rfl | rfl
  · refine ⟨keys_classChunks c m, ?_⟩
    have htext := generateFile_chunks m htemplate
    rw [hcontext] at htext
    cases hproblems : Context.problems m with
    | error f =>
        rw [hproblems] at htext
        exact .inr ⟨rfl, f, rfl, htext⟩
    | ok warnings =>
        rw [hproblems] at htext
        exact .inl ⟨_, htext, quotes_tidy_spell _⟩
  · refine ⟨keys_formChunks c m, .inl ⟨_, ?_, quotes_tidy_spell _⟩⟩
    rw [generateFile_form m htemplate, hcontext]
    rfl

/-- A model with a column whose name has a quote. -/
def ownerModel : Model :=
  { (default : Model) with
    className := "Owner", table := .text "owners"
    attributes := [(.text "it's", ⟨.text "it's", .string, .text "", false, .null⟩)] }

/-- The data class of a model, after its description was asked for: the name of the column is not
read back. -/
theorem generate_quotes_owner :
    let s := Session.start .empty [] Web.unreachable
    Artifact.ofOptions .model .null = .ok .dataClass ∧
      ∃ g made, (make .model .standard).run.run s = (.ok g, made) ∧
        let used := g.after .empty [.specify ownerModel .null]
        let chunks := classChunks ⟨.standard, (used.learn ownerModel).names⟩ ownerModel
        used.templateOf .empty .dataClass = .ok dataClassTemplate ∧
          Dart.keys chunks = [(.annotated, "it's")] ∧
          ∃ text, (used.generate .empty ownerModel .null).text = .ok text ∧ Quotes text chunks ∧
            ∀ before place name after, chunks = before ++ .key place name :: after →
              readQuoted .no (layRest (name ++ "'" ++ spell after)).toList ≠
                some (nameUnits name.toList) := by
  intro s
  refine ⟨rfl, _, _, rfl, ?_⟩
  have hbuiltin : UsesBuiltin .model .standard _ := usesBuiltin_make (s := s) rfl rfl
  have htemplate := (usesBuiltin_after hbuiltin .empty
    [.specify ownerModel .null]).templateOf_eq rfl .empty .dataClass
  obtain ⟨hkeys, htext⟩ := generate_quotes (m := ownerModel)
    (rfl : (make .model .standard).run.run s = (.ok _, _)) .empty [.specify ownerModel .null]
    (rfl : Artifact.ofOptions .model .null = _) (.inl rfl) htemplate
  obtain ⟨text, htext, hquotes⟩ := htext.resolve_right fun ⟨_, f, hf, _⟩ => by cases hf
  refine ⟨htemplate, hkeys, text, htext, hquotes, fun before place name after hchunks hread => ?_⟩
  have hmem : (place, name) ∈ Dart.keys (before ++ .key place name :: after) := by
    rw [keys_append]
    exact List.mem_append_right _ (List.mem_cons_self ..)
  have hname : name = "it's" := by
    rw [← hchunks] at hmem
    exact congrArg Prod.snd (List.mem_singleton.1 (hkeys ▸ hmem))
  have hplain := (hquotes.read before place name after hchunks).1 hread
  rw [hname] at hplain
  exact absurd (hplain '\'' (by decide)) (by decide)

end Generator

end DartScaffold.Dart
