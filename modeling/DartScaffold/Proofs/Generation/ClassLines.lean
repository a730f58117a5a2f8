/-
**The lines of a data class.**

A data class goes through its columns again and again: it declares a field for each, takes it in the
constructor, reads and writes it, copies, shows and compares it, and puts it into the hash code.
All these sections have one line or part of a line for each column that is not left out, in the
order of the columns; without any, some sections are worded differently.  A type is marked if its
value may be missing, and a word stands in front of an argument that has to be given; which mark and
which word that is depends on whether types tell that a value may be missing.  The template of data
classes is filled to these lines, whatever the model and the settings.

Main definitions:

* `Dart.declarationLinesWith`, `Dart.parameterLineWith`, `Dart.readingLineWith`,
  `Dart.writingLine`, `Dart.changeLineWith`, `Dart.copyLine`, `Dart.comparison`, `Dart.hashLine`,
  `Dart.shownField` — what the sections have for a column;
* `Dart.classLinesWith`, `Dart.filledLinesWith` — the class, section by section, and what the
  template is filled to, with any mark and any word;
* `Dart.classLines`, `Dart.filledLines`, `Dart.fileLines` — the same with those of null safety, and
  the lines of the file.

Main results:

* `Dart.eval_class`, `Dart.eval_field` — the values of the gaps for the class and for a field;
* `Dart.flatten_comparisons` — comparisons are joined, and the last one ends them;
* `Dart.writes_filledLinesWith`, `Dart.writes_dataClass` — **the template writes the lines of the
  class**, with the mark and the word of the settings.
-/

import DartScaffold.Proofs.Generation.Imports
import DartScaffold.Proofs.Generation.Independence
import DartScaffold.Proofs.Generation.NestedParts
import DartScaffold.Proofs.Template.Filling

set_option relaxedAutoImplicit false
set_option autoImplicit false

namespace DartScaffold.Dart

open Template (Scope Value Writes eval valueOf)
open Text (unlines)

/-! ### The lines of a column -/

section

variable (mark word : String) (c : Context) (a : Attribute)

/-- Whether reading and writing are left to code that annotations ask for. -/
def Context.annotated : Bool := c.settings.code.useJsonAnnotation.truthy

/-- The field of a column, without what is in front of it, with a mark if its value may be
missing. -/
def fieldLinesWith : List String :=
  ["  final " ++ (if a.nullable then typeOf a.target ++ mark else typeOf a.target) ++ " " ++
    c.names.field a.name ++ ";", ""]

/-- The field of a column is declared. -/
def declarationLinesWith : List String :=
  (if c.annotated then ["  @JsonKey(name: '" ++ a.name.display ++ "')"] else []) ++
    fieldLinesWith mark c a

/-- The constructor is given the field, with a word in front of it unless its value may be
missing. -/
def parameterLineWith : String :=
  "    " ++ (if a.nullable then "" else word) ++ "this." ++ c.names.field a.name ++ ","

/-- The field is read. -/
def readingLineWith : String :=
  "      " ++ c.names.field a.name ++ ": " ++
    Field.reading mark a.name.display a.target a.nullable ++ ","

/-- The field is written. -/
def writingLine : String :=
  "      '" ++ a.name.display ++ "': " ++
    Field.writing (c.names.field a.name) a.target a.nullable ++ ","

/-- A copy may be given another value, of a type with the mark. -/
def changeLineWith : String :=
  "    " ++ (typeOf a.target ++ mark) ++ " " ++ c.names.field a.name ++ ","

/-- A copy has this value, or the one of the original. -/
def copyLine : String :=
  "      " ++ c.names.field a.name ++ ": " ++ c.names.field a.name ++ " ?? this." ++
    c.names.field a.name ++ ","

/-- The field is compared with that of another instance. -/
def comparison : String :=
  "        other." ++ c.names.field a.name ++ " == this." ++ c.names.field a.name

/-- The field goes into the hash code. -/
def hashLine : String := "      " ++ c.names.field a.name ++ ","

/-- The field is shown with its value. -/
def shownField : String := c.names.field a.name ++ ": $" ++ c.names.field a.name

end

/-- Comparisons, all of which have to hold. -/
def conjoined : List String → List String
  | [] => []
  | [s] => [s ++ ";"]
  | s :: more => (s ++ " &&") :: conjoined more

/-! ### The lines of a class -/

section

variable (mark word : String) (c : Context) (m : Model)

/-- The part of the file that another tool generates. -/
def partLines : List String :=
  if c.annotated then ["", "part '" ++ modelStem m.className ++ ".g.dart';"] else []

/-- What is said about the class in front of it. -/
def introductionLines : List String :=
  (if c.settings.code.documentation.truthy then
    commentLines 0 (c.typeName m ++ " model generated from the `" ++ m.table.display ++ "` table.")
  else []) ++ (if c.annotated then ["@JsonSerializable()"] else [])

/-- What is in front of the class: imports, the generated part, and what is said about the class. -/
def headerLines : List String :=
  (if (dataClass c m).imports = [] then [] else
    (dataClass c m).imports ++ partLines c m ++ [""]) ++ introductionLines c m

/-- The constructor. -/
def constructorLinesWith : List String :=
  if c.included m = [] then ["  const " ++ c.typeName m ++ "();"]
  else
    ["  const " ++ c.typeName m ++ "(\x7b"] ++ (c.included m).map (parameterLineWith word c) ++
      ["  \x7d);"]

/-- Reading from and writing to JSON. -/
def jsonLinesWith : List String :=
  if c.annotated then
    ["  factory " ++ c.typeName m ++ ".fromJson(Map<String, dynamic> json) =>",
      "      _$" ++ c.typeName m ++ "FromJson(json);", "",
      "  Map<String, dynamic> toJson() => _$" ++ c.typeName m ++ "ToJson(this);"]
  else
    ["  factory " ++ c.typeName m ++ ".fromJson(Map<String, dynamic> json) \x7b",
      "    return " ++ c.typeName m ++ "("] ++ (c.included m).map (readingLineWith mark c) ++
    ["    );", "  \x7d", "", "  Map<String, dynamic> toJson() \x7b", "    return \x7b"] ++
      (c.included m).map (writingLine c) ++ ["    \x7d;", "  \x7d"]

/-- Copying with changes. -/
def copyLinesWith : List String :=
  if c.included m = [] then
    ["  " ++ c.typeName m ++ " copyWith() \x7b", "    return const " ++ c.typeName m ++ "();",
      "  \x7d"]
  else
    ["  " ++ c.typeName m ++ " copyWith(\x7b"] ++ (c.included m).map (changeLineWith mark c) ++
      ["  \x7d) \x7b", "    return " ++ c.typeName m ++ "("] ++ (c.included m).map (copyLine c) ++
      ["    );", "  \x7d"]

/-- Showing an instance. -/
def shownLines : List String :=
  ["  @override", "  String toString() \x7b",
    "    return '" ++ c.typeName m ++ "(" ++ Text.join ", " ((c.included m).map (shownField c)) ++
      ")';", "  \x7d"]

/-- Equality. -/
def equalityLines : List String :=
  ["  @override", "  bool operator ==(Object other) \x7b",
    "    if (identical(this, other)) return true;"] ++
    (if c.included m = [] then ["    return other is " ++ c.typeName m ++ ";"]
    else
      ("    return other is " ++ c.typeName m ++ " &&") ::
        conjoined ((c.included m).map (comparison c))) ++ ["  \x7d"]

/-- Hash codes. -/
def hashLines : List String :=
  ["  @override", "  int get hashCode \x7b"] ++
    (if c.included m = [] then ["    return runtimeType.hashCode;"]
    else ["    return Object.hashAll(["] ++ (c.included m).map (hashLine c) ++ ["    ]);"]) ++
    ["  \x7d"]

/-- The class, section by section. -/
def classLinesWith : List String :=
  ["class " ++ c.typeName m ++ " \x7b"] ++ (c.included m).flatMap (declarationLinesWith mark c) ++
    constructorLinesWith word c m ++ [""] ++ jsonLinesWith mark c m ++ [""] ++
    copyLinesWith mark c m ++ [""] ++ shownLines c m ++ [""] ++ equalityLines c m ++ [""] ++
    hashLines c m ++ ["\x7d"]

/-- The lines that the template is filled to: a blank one is in front of the comment, even if there
is nothing to import. -/
def filledLinesWith : List String :=
  (dataClass c m).imports ++ partLines c m ++ [""] ++ introductionLines c m ++
    classLinesWith mark word c m

end

/-! ### Under null safety -/

section

variable (c : Context) (m : Model)

/-- The class, with the mark and the word of null safety. -/
def classLines : List String := classLinesWith "?" "required " c m

/-- The lines that the template is filled to then. -/
def filledLines : List String := filledLinesWith "?" "required " c m

/-- The lines of the file. -/
def fileLines : List String := headerLines c m ++ classLines c m

end

/-! ### Values in the template -/

theorem isPlain_dataClass (d : DataClass) : d.value.IsPlain :=
  ⟨_, _, _, _, rfl, by decide +kernel⟩

theorem isPlain_field (f : Field) : f.value.IsPlain := ⟨_, _, _, _, rfl, by decide +kernel⟩

section

variable {c : Context} {m : Model} {scope : Scope}
  (hmodel : valueOf scope "model" = (dataClass c m).value)
include hmodel

/-- The gap for a member of the class. -/
theorem eval_class {n : String} {w : Value} (hn : (dataClass c m).value.entries.lookup n = some w) :
    eval scope (Template.member "model" n) = .ok w :=
  Template.eval_member hmodel (isPlain_dataClass _) hn

theorem eval_fields : eval scope (Template.member "model" "fields") =
    .ok (.list ((c.included m).map fun a => (Field.ofAttribute c a).value)) := by
  rw [eval_class hmodel rfl, dataClass, fields, List.map_map]
  rfl

theorem eval_className : eval scope (Template.member "model" "class_name") =
    .ok (.text (c.typeName m)) :=
  eval_class hmodel rfl

theorem eval_shownFields : eval scope (Template.member "model" "to_string_body") =
    .ok (.text (Text.join ", " ((c.included m).map (shownField c)))) := by
  have hshown : (dataClass c m).shownFields =
      Text.join ", " ((c.included m).map (shownField c)) := by
    rw [DataClass.shownFields, dataClass, fields, List.map_map]
    rfl
  rw [eval_class hmodel rfl, hshown]

/-- Parts that are kept if there are fields. -/
theorem writes_fields {yes no : List Template.Segment} {ls more : List String}
    (hyes : Writes scope "" yes ls) (hno : Writes scope "" no more) :
    Writes scope "" [.branch (Template.member "model" "fields") yes no]
      (if c.included m = [] then more else ls) := by
  have hbranch := Writes.branch (eval_fields hmodel) rfl hyes hno
  cases hnone : c.included m with
  | nil =>
      rw [hnone] at hbranch
      exact hbranch
  | cons a as =>
      rw [hnone] at hbranch
      exact hbranch

end

section

variable {c : Context} {a : Attribute} {scope : Scope}
  (hfield : valueOf scope "field" = (Field.ofAttribute c a).value)
include hfield

/-- The gap for a member of a field. -/
theorem eval_field {n : String} {w : Value}
    (hn : (Field.ofAttribute c a).value.entries.lookup n = some w) :
    eval scope (Template.member "field" n) = .ok w :=
  Template.eval_member hfield (isPlain_field _) hn

theorem eval_fieldName : eval scope (Template.member "field" "name") =
    .ok (.text (c.names.field a.name)) :=
  eval_field hfield rfl

theorem eval_declared : eval scope (Template.member "field" "type_annotation") =
    .ok (.text (if a.nullable then typeOf a.target ++ c.mark else typeOf a.target)) :=
  eval_field hfield rfl

theorem eval_copied : eval scope (Template.member "field" "copy_with_type") =
    .ok (.text (typeOf a.target ++ c.mark)) :=
  eval_field hfield rfl

theorem eval_reading : eval scope (Template.member "field" "from_json") =
    .ok (.text (Field.reading c.mark a.name.display a.target a.nullable)) :=
  eval_field hfield rfl

end

/-! ### Filling the template -/

/-- What stands behind a comparison. -/
theorem eval_behind {scope : Scope} {items : List Value} {i : Nat}
    (hloop : valueOf scope "loop" = Template.loopValue items i) :
    eval scope (.choose (Template.member "loop" "last") (Template.quote ";")
      (Template.quote " &&")) =
        .ok (.text (if i + 1 = items.length then ";" else " &&")) := by
  rw [Template.eval_choose (Template.eval_last hloop) (Value.truthy_flag _)]
  by_cases hlast : i + 1 = items.length
  · rw [if_pos (beq_iff_eq.2 hlast), if_pos hlast, Template.quote, eval]
    rfl
  · rw [if_neg (by simpa using hlast), if_neg hlast, Template.quote, eval]
    rfl

/-- What stands behind a comparison is told by its place. -/
theorem flatten_comparisons {α : Type} (f : α → String) (xs : List α) (k : Nat) :
    ((xs.zipIdx k).map fun item =>
      [f item.1 ++ if item.2 + 1 = k + xs.length then ";" else " &&"]).flatten =
        conjoined (xs.map f) := by
  induction xs generalizing k with
  | nil => rfl
  | cons x xs ih =>
      have hplaces : k + (x :: xs).length = k + 1 + xs.length := by
        rw [List.length_cons]
        omega
      rw [hplaces, List.zipIdx_cons, List.map_cons, List.flatten_cons, ih (k + 1)]
      cases xs with
      | nil => simp [conjoined]
      | cons y ys =>
          have hmore : ¬k + 1 = k + 1 + (y :: ys).length := by
            rw [List.length_cons]
            omega
          rw [if_neg hmore]
          rfl

/-- The lines that import, in any file. -/
theorem writes_importLines {scope : Scope} {owner : String} {lines : List String}
    (he : eval scope (Template.member owner "imports") = .ok (.texts lines)) :
    Writes scope "" [importLines owner] lines := by
  have hlines : Writes scope "" [importLines owner] (lines.map id) :=
    .each_line (f := .text) he fun s _ i =>
      .shownLine (v := .text s) (by rw [eval, Template.valueOf_put, if_pos rfl]) rfl .nil
  rwa [List.map_id] at hlines

/-- Nothing to say leaves no line behind. -/
theorem writes_noLine {scope : Scope} {owner field : String}
    (he : eval scope (Template.member owner field) = .ok (.text "")) :
    Writes scope "" [optionalLine owner field] [] :=
  .branch he rfl (.shownLine he rfl .nil) .nil

/-- Lines of their own, which may be missing. -/
theorem writes_optionalLine {scope : Scope} {owner field s : String} {lines : List String}
    (he : eval scope (Template.member owner field) = .ok (.text s)) (hne : s ≠ "")
    (hs : s ++ "\n" = unlines lines) : Writes scope "" [optionalLine owner field] lines := by
  have htruthy : (Value.text s).truthy = .ok true := by
    rw [Value.truthy_text, bne_iff_ne.2 hne]
  rw [← List.append_nil lines]
  exact .branch he htruthy (.shown he rfl hs .nil) .nil

/-- A comment, where comments are wanted. -/
theorem writes_documentation {c : Context} {scope : Scope} {owner s : String}
    (he : eval scope (Template.member owner "doc") = .ok (.text (c.comment 0 s))) (hne : s ≠ "") :
    Writes scope "" [optionalLine owner "doc"]
      (if c.settings.code.documentation.truthy then commentLines 0 s else []) := by
  by_cases hwanted : c.settings.code.documentation.truthy = true
  · have hcomment : c.comment 0 s = comment 0 s := if_pos hwanted
    rw [hcomment] at he
    rw [if_pos hwanted]
    exact writes_optionalLine he (comment_ne_empty hne) (comment_append_newline hne)
  · have hcomment : c.comment 0 s = "" := if_neg hwanted
    rw [hcomment] at he
    rw [if_neg hwanted]
    exact writes_noLine he

section

variable {c : Context} {m : Model} {scope : Scope}
  (hmodel : valueOf scope "model" = (dataClass c m).value)
include hmodel

theorem writes_part : Writes scope "" [Template.when (Template.member "model" "part_directive") [
    .text "\n", Template.gap "model" "part_directive", .text "\n"]] (partLines c m) := by
  have hpart := eval_class (n := "part_directive") hmodel rfl
  by_cases hannotated : c.annotated = true
  · have hline : (dataClass c m).part? = some ("part '" ++ modelStem m.className ++ ".g.dart';") :=
      if_pos hannotated
    rw [hline] at hpart
    rw [partLines, if_pos hannotated]
    exact .branch hpart rfl (.whole (t := "") rfl (.shownLine hpart rfl .nil)) .nil
  · have hline : (dataClass c m).part? = none := if_neg hannotated
    rw [hline] at hpart
    rw [partLines, if_neg hannotated]
    exact .branch hpart rfl (.whole (t := "") rfl (.shownLine hpart rfl .nil)) .nil

/-- What is said about the class. -/
theorem writes_comment : Writes scope "" [optionalLine "model" "doc"]
    (if c.settings.code.documentation.truthy then commentLines 0
      (c.typeName m ++ " model generated from the `" ++ m.table.display ++ "` table.")
    else []) := by
  refine writes_documentation (eval_class (n := "doc") hmodel rfl) fun hempty => ?_
  have hlast := congrArg (fun s : String => s.toList.getLast?) hempty
  simp [String.toList_append] at hlast

/-- The word in front of an argument that has to be given. -/
theorem eval_required {a : Attribute}
    (hfield : valueOf scope "field" = (Field.ofAttribute c a).value) :
    eval scope (.choose (Template.member "field" "required")
      (Template.member "model" "required_keyword") (Template.quote "")) =
        .ok (.text (if a.nullable then "" else (dataClass c m).requiredWord)) := by
  have hrequired : eval scope (Template.member "field" "required") = .ok (.flag !a.nullable) :=
    eval_field hfield rfl
  rw [Template.eval_choose hrequired (Value.truthy_flag _)]
  cases a.nullable with
  | true =>
      rw [Bool.not_true, if_neg (by decide), Template.quote, eval, if_pos rfl]
      rfl
  | false =>
      rw [Bool.not_false, if_pos rfl, eval_class hmodel rfl]
      rfl

/-- **The template writes the lines of the class**, section by section. -/
theorem writes_filledLinesWith : Writes scope "" dataClassTemplate
    (filledLinesWith c.mark (dataClass c m).requiredWord c m) := by
  have hinner : ∀ (items : List Value) (i : Nat) (a : Attribute),
      valueOf ((scope.put "loop" (Template.loopValue items i)).put "field"
        (Field.ofAttribute c a).value) "field" = (Field.ofAttribute c a).value := by
    intro items i a
    rw [Template.valueOf_put, if_pos rfl]
  have houter : ∀ (items : List Value) (i : Nat) (a : Attribute),
      valueOf ((scope.put "loop" (Template.loopValue items i)).put "field"
        (Field.ofAttribute c a).value) "model" = (dataClass c m).value := by
    intro items i a
    rw [Template.valueOf_put, if_neg (by decide), Template.valueOf_put, if_neg (by decide), hmodel]
  have hloop : ∀ (items : List Value) (i : Nat) (a : Attribute),
      valueOf ((scope.put "loop" (Template.loopValue items i)).put "field"
        (Field.ofAttribute c a).value) "loop" = Template.loopValue items i := by
    intro items i a
    rw [Template.valueOf_put, if_neg (by decide), Template.valueOf_put, if_pos rfl]
  have hname := eval_className hmodel
  have hfields := eval_fields hmodel
  have hannotated := eval_class (n := "use_json_annotation") hmodel rfl
  simp only [filledLinesWith, classLinesWith, introductionLines, hashLines, equalityLines,
    shownLines, copyLinesWith, jsonLinesWith, constructorLinesWith, List.append_assoc,
    List.cons_append, List.nil_append]
  dsimp only [dataClassTemplate]
  -- Imports, the generated part, and what is said about the class.
  refine .block (writes_importLines (eval_class hmodel rfl)) (.block (writes_part hmodel)
    (.whole rfl ?_))
  refine .block (writes_comment hmodel) (.block (.branch hannotated rfl (.whole rfl .nil) .nil) ?_)
  -- The fields and the constructor.
  refine .around hname rfl rfl ?_
  refine .block (.each_item hfields fun a _ i => ?_) ?_
  · refine .block (.branch (eval_class (houter _ i a) rfl) rfl
      (.around (eval_field (hinner _ i a) rfl) rfl rfl .nil) .nil) ?_
    refine .start (.value (eval_declared (hinner _ i a)) rfl (.text ?_))
    exact .value (eval_fieldName (hinner _ i a)) rfl (.line rfl (.whole rfl .nil))
  refine .block (writes_fields hmodel ?_ (.around hname rfl rfl .nil)) (.whole rfl ?_)
  · refine .around hname rfl rfl (.block (.each_line hfields fun a _ i => ?_) (.whole rfl .nil))
    exact .start (.value (eval_required (houter _ i a) (hinner _ i a)) rfl
      (.text (.value (eval_fieldName (hinner _ i a)) rfl (.line rfl .nil))))
  -- Reading and writing.
  refine .block (.branch hannotated rfl ?_ ?_) (.whole rfl ?_)
  · exact .around hname rfl rfl (.around hname rfl rfl (.whole rfl (.around hname rfl rfl .nil)))
  · refine .around hname rfl rfl (.around hname rfl rfl ?_)
    refine .block (.each_line hfields fun a _ i => ?_) ?_
    · exact .start (.value (eval_fieldName (hinner _ i a)) rfl (.text
        (.value (eval_reading (hinner _ i a)) rfl (.line rfl .nil))))
    repeat refine .whole rfl ?_
    refine .block (.each_line hfields fun a _ i => ?_) (.whole rfl (.whole rfl .nil))
    · exact .start (.value (eval_field (hinner _ i a) rfl) rfl (.text
        (.value (eval_field (hinner _ i a) rfl) rfl (.line rfl .nil))))
  -- Copying.
  refine .block (writes_fields hmodel ?_ ?_) (.whole rfl ?_)
  · refine .around hname rfl rfl (.block (.each_line hfields fun a _ i => ?_) ?_)
    · exact .start (.value (eval_copied (hinner _ i a)) rfl (.text
        (.value (eval_fieldName (hinner _ i a)) rfl (.line rfl .nil))))
    refine .whole rfl (.around hname rfl rfl ?_)
    refine .block (.each_line hfields fun a _ i => ?_) (.whole rfl (.whole rfl .nil))
    · have hfield := eval_fieldName (hinner ((c.included m).map fun a =>
        (Field.ofAttribute c a).value) i a)
      exact .start (.value hfield rfl (.text (.value hfield rfl (.text
        (.value hfield rfl (.line rfl .nil))))))
  · exact .around hname rfl rfl (.around hname rfl rfl (.whole rfl .nil))
  -- Showing.
  refine .whole rfl (.whole rfl (.start (.value hname rfl (.text ?_))))
  refine .value (eval_shownFields hmodel) rfl (.line rfl ?_)
  repeat refine .whole rfl ?_
  -- Equality.
  refine .block (writes_fields hmodel ?_ ?_) (.whole rfl (.whole rfl ?_))
  · have hcomparisons := flatten_comparisons (comparison c) (c.included m) 0
    rw [Nat.zero_add] at hcomparisons
    rw [← hcomparisons]
    refine .around hname rfl rfl (.each (g := fun a i =>
      [comparison c a ++ if i + 1 = (c.included m).length then ";" else " &&"]) hfields
      fun a i _ => ?_)
    have hfield := eval_fieldName (hinner ((c.included m).map fun a =>
      (Field.ofAttribute c a).value) i a)
    have hbehind := eval_behind (hloop ((c.included m).map fun a =>
      (Field.ofAttribute c a).value) i a)
    rw [List.length_map] at hbehind
    exact .start (.value hfield rfl (.text (.value hfield rfl (.value hbehind rfl
      (.ended .nil)))))
  · exact .around hname rfl rfl .nil
  -- Hash codes.
  refine .whole rfl (.whole rfl (.block (writes_fields hmodel ?_ (.whole rfl .nil))
    (.whole rfl (.whole rfl .nil))))
  refine .whole rfl (.block (.each_line hfields fun a _ i => ?_) (.whole rfl .nil))
  exact .around (eval_fieldName (hinner _ i a)) rfl rfl .nil

/-- Under null safety they are the lines of the class. -/
theorem writes_dataClass (hmark : c.mark = "?") (hsafe : c.nullSafe = true) :
    Writes scope "" dataClassTemplate (filledLines c m) := by
  have hword : (dataClass c m).requiredWord = "required " := if_pos hsafe
  have hlines := writes_filledLinesWith hmodel
  rwa [hmark, hword] at hlines

end

end DartScaffold.Dart
