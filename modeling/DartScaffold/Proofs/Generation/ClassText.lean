/-
**The text of a data class.**

The lines that the template of data classes is filled to end in something visible, and only single
blank lines are between them, as long as no name of a column has a line break.  So the layout of
code leaves them as they are: it joins no sections, drops no line of a column, and takes away only
the blank line at the beginning of a file that imports nothing.  What a generator gives for a model
is then known line by line.

Main definitions:

* `Dart.Generator.templateOf` — the template that a generator finds for a file.

Main results:

* `Dart.isLaid_classLines` — the sections of a class with single blank lines between them;
* `Dart.tidy_dataClass` — **the lines of the template keep their layout**;
* `Dart.Generator.generate_fileLines` — **the text of a data class**, line by line.
-/

import DartScaffold.Proofs.Generation.Brackets
import DartScaffold.Proofs.Generation.ClassLines

set_option relaxedAutoImplicit false
set_option autoImplicit false

namespace DartScaffold.Dart

open Text (Unbroken unlines)

/-! ### Parts of lines -/

theorem unbroken_field {names : Naming.Names} (h : Learned names) (d : Datum) :
    Unbroken (names.field d) :=
  Text.unbroken_of_isAlphanum (Naming.isAlphanum_of_isMemberName (isMemberName_field h d))

theorem unbroken_type {names : Naming.Names} (h : Learned names) (source : String) :
    Unbroken (names.type source) :=
  Text.unbroken_of_isAlphanum (isAlphanum_type h source)

theorem unbroken_modelStem (name : String) : Unbroken (modelStem name) :=
  not_mem_modelStem (by decide) name

theorem unbroken_typeOf (t : ColumnType) : Unbroken (typeOf t) := by
  cases t <;> decide

theorem unbroken_reading {mark key : String} (hmark : Unbroken mark) (h : Unbroken key)
    (target : ColumnType) (nullable : Bool) :
    Unbroken (Field.reading mark key target nullable) := by
  have hvalue : Unbroken ("json['" ++ key ++ "']") :=
    (Unbroken.append (by decide) h).append (by decide)
  have hcast : ∀ t, Unbroken ("json['" ++ key ++ "']" ++ " as " ++ typeOf t) := fun t =>
    (hvalue.append (by decide)).append (unbroken_typeOf t)
  unfold Field.reading
  cases nullable with
  | true =>
      cases target with
      | int | double =>
          have hnumber : Unbroken ("(" ++ ("json['" ++ key ++ "']") ++ " as num") :=
            (Unbroken.append (by decide) hvalue).append (by decide)
          exact (hnumber.append hmark).append (by decide)
      | datetime => exact ((hvalue.append (by decide)).append hvalue).append (by decide)
      | bool | json | string => exact (hcast _).append hmark
  | false =>
      cases target with
      | int | double | datetime =>
          exact (Unbroken.append (by decide) hvalue).append (by decide)
      | bool | json | string => exact hcast _

theorem unbroken_writing {name : String} (h : Unbroken name) (target : ColumnType)
    (nullable : Bool) : Unbroken (Field.writing name target nullable) := by
  unfold Field.writing
  split
  · exact h.append (by decide)
  · exact h.append (by decide)
  · exact h

/-! ### Lines of columns -/

section

variable {mark word : String} {c : Context} (hc : Learned c.names)
include hc

/-- The declarations of columns, in front of other lines. -/
theorem isLaid_declarations (hmark : Unbroken mark) {columns : List Attribute}
    (h : ∀ a ∈ columns, Unbroken a.name.display) {more : List String} (hmore : IsLaid more) :
    IsLaid (columns.flatMap (declarationLinesWith mark c) ++ more) := by
  induction columns with
  | nil => exact hmore
  | cons a columns ih =>
      obtain ⟨ha, hcolumns⟩ := List.forall_mem_cons.1 h
      have hkey : ∀ l ∈ (if c.annotated then ["  @JsonKey(name: '" ++ a.name.display ++ "')"]
          else []), IsSolid l := by
        split_ifs
        · exact List.forall_mem_singleton.2
            (isSolid_append (Unbroken.append (by decide) ha) (by decide))
        · exact List.forall_mem_nil _
      have htype : Unbroken (if a.nullable then typeOf a.target ++ mark else typeOf a.target) := by
        split_ifs
        · exact (unbroken_typeOf _).append hmark
        · exact unbroken_typeOf _
      rw [List.flatMap_cons, declarationLinesWith, fieldLinesWith, List.append_assoc,
        List.append_assoc]
      refine .of_solid_append hkey (.gap (isSolid_append ?_ (by decide)) (ih hcolumns))
      exact ((Unbroken.append (by decide) htype).append (by decide)).append
        (unbroken_field hc a.name)

variable (a : Attribute)

theorem isSolid_parameterLine (hword : Unbroken word) : IsSolid (parameterLineWith word c a) := by
  have hgiven : Unbroken (if a.nullable then "" else word) := by
    split_ifs
    · decide
    · exact hword
  exact isSolid_append (((Unbroken.append (by decide) hgiven).append (by decide)).append
    (unbroken_field hc a.name)) (by decide)

theorem isSolid_readingLine (hmark : Unbroken mark) (ha : Unbroken a.name.display) :
    IsSolid (readingLineWith mark c a) :=
  isSolid_append (((Unbroken.append (by decide) (unbroken_field hc a.name)).append
    (by decide)).append (unbroken_reading hmark ha _ _)) (by decide)

theorem isSolid_writingLine (ha : Unbroken a.name.display) : IsSolid (writingLine c a) :=
  isSolid_append (((Unbroken.append (by decide) ha).append (by decide)).append
    (unbroken_writing (unbroken_field hc a.name) _ _)) (by decide)

theorem isSolid_changeLine (hmark : Unbroken mark) : IsSolid (changeLineWith mark c a) :=
  isSolid_append (((Unbroken.append (by decide)
    ((unbroken_typeOf a.target).append hmark)).append (by decide)).append
    (unbroken_field hc a.name)) (by decide)

theorem isSolid_copyLine : IsSolid (copyLine c a) := by
  have hname := unbroken_field hc a.name
  exact isSolid_append (((((Unbroken.append (by decide) hname).append (by decide)).append
    hname).append (by decide)).append hname) (by decide)

theorem unbroken_comparison : Unbroken (comparison c a) := by
  have hname := unbroken_field hc a.name
  exact ((Unbroken.append (by decide) hname).append (by decide)).append hname

theorem isSolid_hashLine : IsSolid (hashLine c a) :=
  isSolid_append (Unbroken.append (by decide) (unbroken_field hc a.name)) (by decide)

theorem unbroken_shownField : Unbroken (shownField c a) := by
  have hname := unbroken_field hc a.name
  exact (hname.append (by decide)).append hname

end

/-- Comparisons end in what joins them. -/
theorem isSolid_conjoined {parts : List String} (h : ∀ s ∈ parts, Unbroken s) :
    ∀ l ∈ conjoined parts, IsSolid l := by
  fun_induction conjoined parts with
  | case1 => exact List.forall_mem_nil _
  | case2 s => exact List.forall_mem_singleton.2 (isSolid_append (h s (by simp)) (by decide))
  | case3 s more _ ih =>
      obtain ⟨hs, hmore⟩ := List.forall_mem_cons.1 h
      exact List.forall_mem_cons.2 ⟨isSolid_append hs (by decide), ih hmore⟩

/-! ### The class in its layout -/

section

variable {mark word : String} {c : Context} {m : Model} (hc : Learned c.names)
include hc

theorem isLaid_constructorLines (hword : Unbroken word) :
    IsLaid (constructorLinesWith word c m) := by
  have hname : Unbroken (c.typeName m) := unbroken_type hc _
  have hbegin : Unbroken ("  const " ++ c.typeName m) := .append (by decide) hname
  unfold constructorLinesWith
  split_ifs
  · exact .one (isSolid_append hbegin (by decide))
  · exact .line (isSolid_append hbegin (by decide)) (.of_solid_append
      (List.forall_mem_map.2 fun a _ => isSolid_parameterLine hc a hword)
      (.one (by decide)))

theorem isLaid_jsonLines (hmark : Unbroken mark)
    (h : ∀ a ∈ c.included m, Unbroken a.name.display) : IsLaid (jsonLinesWith mark c m) := by
  have hname : Unbroken (c.typeName m) := unbroken_type hc _
  have hfactory : Unbroken ("  factory " ++ c.typeName m) := .append (by decide) hname
  unfold jsonLinesWith
  split_ifs
  · have hcall : Unbroken ("      _$" ++ c.typeName m) := .append (by decide) hname
    have hmap : Unbroken ("  Map<String, dynamic> toJson() => _$" ++ c.typeName m) :=
      .append (by decide) hname
    exact .line (isSolid_append hfactory (by decide)) (.gap (isSolid_append hcall (by decide))
      (.one (isSolid_append hmap (by decide))))
  · have hreturn : Unbroken ("    return " ++ c.typeName m) := .append (by decide) hname
    simp only [List.append_assoc, List.cons_append, List.nil_append]
    refine .line (isSolid_append hfactory (by decide))
      (.line (isSolid_append hreturn (by decide)) ?_)
    refine .of_solid_append (List.forall_mem_map.2 fun a ha =>
      isSolid_readingLine hc a hmark (h a ha)) ?_
    refine .line (by decide) (.gap (by decide) (.line (by decide) (.line (by decide) ?_)))
    exact .of_solid_append (List.forall_mem_map.2 fun a ha => isSolid_writingLine hc a (h a ha))
      (.line (by decide) (.one (by decide)))

theorem isLaid_copyLines (hmark : Unbroken mark) : IsLaid (copyLinesWith mark c m) := by
  have hname : Unbroken (c.typeName m) := unbroken_type hc _
  have hbegin : Unbroken ("  " ++ c.typeName m) := .append (by decide) hname
  unfold copyLinesWith
  split_ifs
  · have hreturn : Unbroken ("    return const " ++ c.typeName m) := .append (by decide) hname
    exact .line (isSolid_append hbegin (by decide))
      (.line (isSolid_append hreturn (by decide)) (.one (by decide)))
  · have hreturn : Unbroken ("    return " ++ c.typeName m) := .append (by decide) hname
    simp only [List.append_assoc, List.cons_append, List.nil_append]
    refine .line (isSolid_append hbegin (by decide)) ?_
    refine .of_solid_append (List.forall_mem_map.2 fun a _ => isSolid_changeLine hc a hmark) ?_
    refine .line (by decide) (.line (isSolid_append hreturn (by decide)) ?_)
    exact .of_solid_append (List.forall_mem_map.2 fun a _ => isSolid_copyLine hc a)
      (.line (by decide) (.one (by decide)))

theorem isLaid_shownLines : IsLaid (shownLines c m) := by
  have hname : Unbroken (c.typeName m) := unbroken_type hc _
  have hshown : Unbroken (Text.join ", " ((c.included m).map (shownField c))) :=
    .join (by decide) (List.forall_mem_map.2 fun a _ => unbroken_shownField hc a)
  refine .line (by decide) (.line (by decide) (.line (isSolid_append ?_ (by decide))
    (.one (by decide))))
  exact ((Unbroken.append (by decide) hname).append (by decide)).append hshown

theorem isLaid_equalityLines : IsLaid (equalityLines c m) := by
  have hname : Unbroken (c.typeName m) := unbroken_type hc _
  have hbegin : Unbroken ("    return other is " ++ c.typeName m) := .append (by decide) hname
  unfold equalityLines
  split_ifs
  · exact .line (by decide) (.line (by decide) (.line (by decide)
      (.line (isSolid_append hbegin (by decide)) (.one (by decide)))))
  · simp only [List.cons_append, List.nil_append]
    refine .line (by decide) (.line (by decide) (.line (by decide)
      (.line (isSolid_append hbegin (by decide)) ?_)))
    exact .of_solid_append (isSolid_conjoined (List.forall_mem_map.2 fun a _ =>
      unbroken_comparison hc a)) (.one (by decide))

theorem isLaid_hashLines : IsLaid (hashLines c m) := by
  unfold hashLines
  split_ifs
  · exact .line (by decide) (.line (by decide) (.line (by decide) (.one (by decide))))
  · simp only [List.append_assoc, List.cons_append, List.nil_append]
    refine .line (by decide) (.line (by decide) (.line (by decide) ?_))
    exact .of_solid_append (List.forall_mem_map.2 fun a _ => isSolid_hashLine hc a)
      (.line (by decide) (.one (by decide)))

/-- The sections of a class have single blank lines between them. -/
theorem isLaid_classLines (hmark : Unbroken mark) (hword : Unbroken word)
    (h : ∀ a ∈ c.included m, Unbroken a.name.display) : IsLaid (classLinesWith mark word c m) := by
  have hname : Unbroken (c.typeName m) := unbroken_type hc _
  simp only [classLinesWith, List.append_assoc, List.cons_append, List.nil_append]
  refine .line (isSolid_append (Unbroken.append (by decide) hname) (by decide))
    (isLaid_declarations hc hmark h ?_)
  have hhash : IsLaid (hashLines c m ++ ["\x7d"]) :=
    (isLaid_hashLines hc).append (.one (by decide))
  have hequality : IsLaid (equalityLines c m ++ "" :: (hashLines c m ++ ["\x7d"])) :=
    (isLaid_equalityLines hc).apart hhash
  refine (isLaid_constructorLines hc hword).apart ((isLaid_jsonLines hc hmark h).apart ?_)
  exact (isLaid_copyLines hc hmark).apart ((isLaid_shownLines hc).apart hequality)

/-- What is said about the class stands right in front of it. -/
theorem isLaid_introductionLines (h : ∀ a ∈ c.included m, Unbroken a.name.display) :
    IsLaid (introductionLines c m ++ classLines c m) := by
  refine .of_solid_append (List.forall_mem_append.2 ⟨?_, ?_⟩)
    (isLaid_classLines hc (by decide) (by decide) h)
  · split_ifs
    · exact isSolid_commentLines _ _
    · exact List.forall_mem_nil _
  · split_ifs
    · exact List.forall_mem_singleton.2 (by decide)
    · exact List.forall_mem_nil _

omit hc in
theorem isSolid_imports (c : Context) (m : Model) : ∀ l ∈ (dataClass c m).imports, IsSolid l := by
  refine List.forall_mem_append.2 ⟨?_, List.forall_mem_map.2 fun s hs => ?_⟩
  · have hannotation : IsSolid "import 'package:json_annotation/json_annotation.dart';" := by
      decide +kernel
    split_ifs
    · exact List.forall_mem_singleton.2 hannotation
    · exact List.forall_mem_nil _
  · obtain ⟨r, -, hstem⟩ := mem_relatedStems hs
    rw [hstem]
    exact isSolid_append (Unbroken.append (by decide) (unbroken_modelStem _)) (by decide)

omit hc in
/-- With annotations something is imported. -/
theorem partLines_of_imports_eq_nil (h : (dataClass c m).imports = []) : partLines c m = [] := by
  have hnone : (if c.annotated then ["import 'package:json_annotation/json_annotation.dart';"]
      else []) = [] := (List.append_eq_nil_iff.1 h).1
  refine if_neg fun hannotated => ?_
  rw [if_pos hannotated] at hnone
  cases hnone

/-- **The lines of the template keep their layout**, but for the blank one at the beginning of a
file that imports nothing. -/
theorem tidy_dataClass (h : ∀ a ∈ c.included m, Unbroken a.name.display) :
    tidy (unlines (filledLines c m)) = unlines (fileLines c m) := by
  have hclass := isLaid_introductionLines hc h
  unfold filledLines filledLinesWith fileLines headerLines
  rw [List.append_assoc _ (introductionLines c m), List.append_assoc _ (introductionLines c m)]
  split_ifs with hnone
  · rw [hnone, partLines_of_imports_eq_nil hnone]
    exact tidy_unlines_blank hclass
  · refine tidy_unlines ?_
    have himports := IsLaid.of_solid (isSolid_imports c m) hnone
    unfold partLines
    simp only [List.append_assoc, List.cons_append, List.nil_append]
    split_ifs
    · exact himports.apart (.gap (isSolid_append (Unbroken.append (by decide)
        (unbroken_modelStem _)) (by decide)) hclass)
    · exact himports.apart hclass

end

/-! ### Generators -/

namespace Generator

variable {settings : Settings} {g : Generator} {tree : FileTree}

/-- The template that a generator finds for a file. -/
def templateOf (g : Generator) (tree : FileTree) (a : Artifact) :
    Except Template.FindFault Template :=
  (g.library.find tree (g.templateName a.templateStem)).map Prod.fst

/-- The template that is found is the one that is filled. -/
theorem fill_of_templateOf {a : Artifact} {t : Template} (h : g.templateOf tree a = .ok t)
    (scope : Template.Scope) :
    (g.library.fill tree (g.templateName a.templateStem) scope).1 =
      (Template.Library.textOf (some (g.templateName a.templateStem)) t scope).mapError
        (Template.RenderFault.toFault (.failed (g.templateName a.templateStem))) := by
  unfold templateOf at h
  unfold Template.Library.fill
  cases hfind : g.library.find tree (g.templateName a.templateStem) with
  | error fault =>
      rw [hfind] at h
      cases h
  | ok found =>
      rw [hfind] at h
      obtain rfl : found.1 = t := Except.ok.inj h
      rfl

/-- A generator without templates of its own finds the built-in ones. -/
theorem UsesBuiltin.templateOf_eq {component : Component} (h : g.UsesBuiltin component settings)
    (hextension : settings.templates.extension = ".dart.j2") (tree : FileTree) (a : Artifact) :
    g.templateOf tree a = .ok a.template := by
  have hlook := h.library.lookUp_eq tree a
  rw [templateOf, h.templateName_eq hextension]
  rcases Template.Library.unbiased_find (h.library.unbiased tree) a.templateName with
    ⟨fault, -, hfault⟩ | ⟨t, l, hfind, ht, -, -⟩
  · rw [hlook] at hfault
    cases hfault
  · rw [hfind, ← hlook, ht]
    rfl

/-- A data class that is generated from the built-in template. -/
theorem IsFor.generateFile_dataClass (h : g.IsFor .model settings)
    (hsafe : settings.code.nullSafety.truthy = true) {m : Model}
    (hm : ∀ column ∈ m.attributes, Unbroken column.2.name.display)
    (htemplate : g.templateOf tree .dataClass = .ok dataClassTemplate) :
    (g.generateFile tree m .dataClass).text =
      match Context.problems m with
      | .error f => .error (.misuse f)
      | .ok _ => .ok (unlines (fileLines (g.learn m).context m)) := by
  have hsafe : (g.learn m).context.nullSafe = true := by
    show g.settings.code.nullSafety.truthy = true
    rw [h.settings, hsafe]
  have hincluded : ∀ a ∈ (g.learn m).context.included m, Unbroken a.name.display := by
    intro a ha
    obtain ⟨name, hcolumn, -⟩ := (Context.mem_included _ m a).1 ha
    exact hm _ hcolumn
  have htext : Template.Library.textOf (some (g.templateName "model")) dataClassTemplate
      [("model", (dataClass (g.learn m).context m).value)] =
        .ok (unlines (filledLines (g.learn m).context m)) := by
    refine Template.textOf_writes rfl _ fun v => writes_dataClass ?_ (if_pos hsafe) hsafe
    rw [Template.valueOf_put, if_neg (by decide)]
    rfl
  unfold Generator.generateFile
  show Generated.text (match Context.problems m with | .error f => _ | .ok warnings => _) = _
  cases Context.problems m with
  | error f => rfl
  | ok warnings =>
      show ((g.library.fill tree (g.templateName Artifact.dataClass.templateStem)
        [("model", (dataClass (g.learn m).context m).value)]).1).map tidy = _
      rw [fill_of_templateOf htemplate, Artifact.templateStem, htext]
      exact congrArg Except.ok (tidy_dataClass (h.learn m).names hincluded)

/-- **The text of a data class.**  Under null safety, and if the names of the columns are on one
line, a generator of data classes that finds the built-in template, however often it was used
before, generates the lines of the class, unless what the model declares cannot be put in order.
Every section of the class goes through the columns that are not left out, in order. -/
theorem generate_fileLines {s made : Session}
    (hmake : (make .model settings).run.run s = (.ok g, made))
    (hsafe : settings.code.nullSafety.truthy = true) (before : FileTree) (uses : List Use)
    {m : Model} (hm : ∀ column ∈ m.attributes, Unbroken column.2.name.display)
    (htemplate : (g.after before uses).templateOf tree .dataClass = .ok dataClassTemplate)
    (options : Datum) :
    ((g.after before uses).generate tree m options).text =
      match Context.problems m with
      | .error f => .error (.misuse f)
      | .ok _ => .ok (unlines (fileLines ⟨settings, ((g.after before uses).learn m).names⟩ m)) := by
  have hafter := isFor_after (isFor_make hmake) before uses
  have hcontext : ((g.after before uses).learn m).context =
      ⟨settings, ((g.after before uses).learn m).names⟩ := by
    rw [context, (hafter.learn m).settings]
  have hfile : (g.after before uses).generate tree m options =
      (g.after before uses).generateFile tree m .dataClass := by
    unfold Generator.generate
    rw [hafter.component]
    rfl
  rw [hfile, hafter.generateFile_dataClass hsafe hm htemplate, hcontext]

/-- A model with a column that is left out between two others. -/
def accountModel : Model :=
  let column (name : String) (target : ColumnType) (nullable : Bool) : Datum × Attribute :=
    (.text name, ⟨.text name, target, .text "", nullable, .null⟩)
  { (default : Model) with
    className := "Account", table := .text "accounts"
    attributes := [column "id" .int false, column "password" .string false,
      column "verified_at" .datetime true] }

example : equalityLines ⟨.standard, sanitizer.names⟩ accountModel =
    ["  @override", "  bool operator ==(Object other) \x7b",
      "    if (identical(this, other)) return true;", "    return other is Account &&",
      "        other.id == this.id &&", "        other.verifiedAt == this.verifiedAt;",
      "  \x7d"] := by
  decide +kernel

/-- The data class of a model, after its description was asked for. -/
theorem generate_fileLines_account :
    let s := Session.start .empty [] Web.unreachable
    Settings.standard.code.nullSafety.truthy = true ∧
      (∀ column ∈ accountModel.attributes, Unbroken column.2.name.display) ∧
      ∃ g made, (make .model .standard).run.run s = (.ok g, made) ∧
        let used := g.after .empty [.specify accountModel .null]
        used.templateOf .empty .dataClass = .ok dataClassTemplate ∧
          (used.generate .empty accountModel .null).text =
            .ok (unlines (fileLines ⟨.standard, (used.learn accountModel).names⟩
              accountModel)) := by
  intro s
  have hlines : ∀ column ∈ accountModel.attributes, Unbroken column.2.name.display := by
    simp only [accountModel, List.forall_mem_cons]
    exact ⟨by decide, by decide, by decide, List.forall_mem_nil _⟩
  refine ⟨rfl, hlines, _, _, rfl, ?_⟩
  have hbuiltin : UsesBuiltin .model .standard _ := usesBuiltin_make (s := s) rfl rfl
  have htemplate := (usesBuiltin_after hbuiltin .empty
    [.specify accountModel .null]).templateOf_eq rfl .empty .dataClass
  exact ⟨htemplate, generate_fileLines (s := s) rfl rfl .empty [.specify accountModel .null] hlines
    htemplate .null⟩

end Generator

end DartScaffold.Dart
