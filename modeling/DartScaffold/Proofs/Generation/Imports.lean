/-
**Imports between generated files.**

A file imports another one by a path that starts at its own folder.  The path is put together from
the name of the other folder and what the other file is called, while the path that the other file
is planned at comes from its generator.  Both lead to the same place, so whatever is imported is
planned: every file uses files of the same model and the transport.  Only a data class also refers
to those of the related models, which are planned with these models, if at all.

Main definitions:

* `Dart.imported?`, `Dart.relativeImports` — what a line imports, and the imports by relative paths;
* `Dart.Artifact.imports`, `Dart.Artifact.uses` — the lines of a file that import, and the files
  that it uses;
* `Dart.LeadsTo` — a path in a file leads to another file.

Main results:

* `Dart.Artifact.relativeImports_imports` — a file imports what it uses;
* `Dart.mem_relativeImports_dataClass` — a data class imports those of the related models;
* `Dart.leadsTo_importPath` — a path from one folder to a file of another one leads there;
* `Dart.Artifact.leadsTo_pathTo`, `Dart.leadsTo_related` — to a file that is used, and to the data
  class of a related model;
* `Pipeline.leadsTo_of_planAll` — **what planned files import is planned**, but for related models.
-/

import Mathlib
import DartScaffold.Proofs.Generation.PlannedPaths

set_option relaxedAutoImplicit false
set_option autoImplicit false

namespace DartScaffold

namespace Dart

/-! ### Lines that import -/

/-- The line that imports a path. -/
def importLine (path : String) : String := "import '" ++ path ++ "';"

/-- The path that a line imports. -/
def imported? (line : String) : Option String := do
  let behind ← line.toList.dropPrefix? "import '".toList
  let path ← behind.dropSuffix? "';".toList
  return String.ofList path

theorem imported?_importLine (path : String) : imported? (importLine path) = some path := by
  have hline : (importLine path).toList = "import '".toList ++ (path.toList ++ "';".toList) := by
    rw [importLine, String.toList_append, String.toList_append, List.append_assoc]
  have hbegin : (importLine path).toList.dropPrefix? "import '".toList =
      some (path.toList ++ "';".toList) := by
    rw [hline]
    exact List.dropPrefix?_append_of_beq _ BEq.rfl
  have hsuffix : (path.toList ++ "';".toList).dropSuffix? "';".toList = some path.toList :=
    List.dropSuffix?_eq_some_iff.2 ⟨_, rfl, BEq.rfl⟩
  rw [imported?, hbegin]
  show ((path.toList ++ "';".toList).dropSuffix? "';".toList >>= _) = _
  rw [hsuffix]
  exact congrArg some String.ofList_toList

/-- The relative paths that lines import. -/
def relativeImports (lines : List String) : List String :=
  (lines.filterMap imported?).filter fun path => !Text.startsWith "package:" path

theorem relativeImports_append (lines more : List String) :
    relativeImports (lines ++ more) = relativeImports lines ++ relativeImports more := by
  rw [relativeImports, List.filterMap_append, List.filter_append]
  rfl

/-- A path without a colon is relative. -/
theorem not_startsWith_package {path : String} (h : ':' ∉ path.toList) :
    Text.startsWith "package:" path = false := by
  rw [Text.startsWith, Bool.eq_false_iff, ne_eq, List.isPrefixOf_iff_prefix]
  intro hbegin
  exact h (hbegin.subset (by decide))

/-- Lines that import relative paths. -/
theorem relativeImports_importLine {paths : List String}
    (h : ∀ path ∈ paths, Text.startsWith "package:" path = false) :
    relativeImports (paths.map importLine) = paths := by
  have hread : (paths.map importLine).filterMap imported? = paths := by
    rw [List.filterMap_map]
    have hcomp : imported? ∘ importLine = some := funext imported?_importLine
    rw [hcomp, List.filterMap_some]
  rw [relativeImports, hread, List.filter_eq_self]
  intro path hpath
  rw [h path hpath, Bool.not_false]

/-- The lines above those of widgets and screens import nothing by a relative path. -/
theorem relativeImports_material :
    relativeImports ["import 'package:flutter/material.dart';", ""] = [] := by
  decide +kernel

/-! ### What a file uses -/

namespace Artifact

/-- The lines of a file that import. -/
def imports (c : Context) (m : Model) : Artifact → List String
  | .dataClass => (Dart.dataClass c m).imports
  | .service => (Dart.service c m).imports
  | .widget kind => (Dart.widget c m kind).imports
  | .screen kind => (Dart.screen c m kind).imports
  | .transport => []

/-- The files of the same model, and the transport, that a file uses. -/
def uses : Artifact → List Artifact
  | .dataClass => []
  | .service => [.transport, .dataClass]
  | .widget kind => .dataClass :: if kind = .list then [.widget .card] else []
  | .screen kind =>
    (if kind = .create then [] else [.dataClass]) ++ [.transport, .service] ++
      kind.widgets.map .widget ++ kind.links.map .screen
  | .transport => []

/-- The path by which a file imports another one of the same model. -/
def pathTo (o : OutputSettings) (m : Model) (own used : Artifact) : String :=
  importPath o own.component.folder used.component.folder (used.stem m)

variable (c : Context) (m : Model)

/-- The lines of a file that import, apart from those of a data class. -/
theorem imports_eq {a : Artifact} (ha : a ≠ .dataClass) :
    ∃ packages, relativeImports packages = [] ∧ a.imports c m =
      packages ++ (a.uses.map (a.pathTo c.settings.output m)).map importLine := by
  cases a with
  | dataClass => exact absurd rfl ha
  | service => exact ⟨[], rfl, rfl⟩
  | widget kind =>
      refine ⟨_, relativeImports_material, ?_⟩
      cases kind <;> rfl
  | screen kind =>
      refine ⟨_, relativeImports_material, ?_⟩
      cases kind <;> rfl
  | transport => exact ⟨[], rfl, rfl⟩

end Artifact

/-- A path between folders is relative. -/
theorem not_startsWith_importPath (o : OutputSettings) (own target : Folder) {stem : String}
    (h : ':' ∉ stem.toList) :
    Text.startsWith "package:" (importPath o own target stem) = false := by
  by_cases hown : target = own
  · rw [hown, importPath_self]
    refine not_startsWith_package ?_
    rw [String.toList_append, List.mem_append, not_or]
    exact ⟨h, by decide⟩
  · rw [importPath, if_neg hown, Text.startsWith, String.toList_append, String.toList_append,
      String.toList_append, String.toList_append]
    rfl

/-- **A file imports what it uses**, unless it is a data class. -/
theorem Artifact.relativeImports_imports (c : Context) {m : Model}
    (hm : Naming.words m.className ≠ []) {a : Artifact} (ha : a ≠ .dataClass) :
    relativeImports (a.imports c m) = a.uses.map (a.pathTo c.settings.output m) := by
  -- The packages stand above the relative imports, and none of them is relative.
  obtain ⟨packages, hpackages, himports⟩ := imports_eq c m ha
  rw [himports, relativeImports_append, hpackages, List.nil_append]
  refine relativeImports_importLine fun path hpath => ?_
  obtain ⟨b, -, rfl⟩ := List.mem_map.1 hpath
  exact not_startsWith_importPath _ _ _ (not_mem_stem (by decide) fun _ => hm)

/-- The files that a data class refers to are called after the related models. -/
theorem mem_relatedStems {m : Model} {s : String} (h : s ∈ relatedStems m) :
    ∃ r ∈ m.relationships, s = modelStem r.2.relatedName := by
  have hs := List.mem_eraseDups.1 (List.mem_mergeSort.1 h)
  obtain ⟨r, hr, rfl⟩ := List.mem_map.1 (List.mem_filter.1 hs).1
  exact ⟨r, hr, rfl⟩

/-- The lines of a data class that import. -/
theorem dataClass_imports_eq (c : Context) (m : Model) :
    ∃ packages, relativeImports packages = [] ∧ Artifact.dataClass.imports c m =
      packages ++ ((relatedStems m).map fun s => s ++ ".dart").map importLine := by
  have hlines : (relatedStems m).map (fun s => "import '" ++ s ++ ".dart';") =
      ((relatedStems m).map fun s => s ++ ".dart").map importLine := by
    have hend : ∀ s : String, s ++ ".dart" ++ "';" = s ++ ".dart';" := fun s => String.append_assoc
    rw [List.map_map]
    refine List.map_congr_left fun s _ => ?_
    show _ = "import '" ++ (s ++ ".dart") ++ "';"
    rw [← String.append_assoc, hend]
  rw [← hlines]
  refine ⟨if c.settings.code.useJsonAnnotation.truthy then
    ["import 'package:json_annotation/json_annotation.dart';"] else [], ?_, rfl⟩
  by_cases hannotated : c.settings.code.useJsonAnnotation.truthy = true
  · rw [if_pos hannotated]
    decide +kernel
  · rw [if_neg hannotated]
    rfl

/-- A data class imports those of the related models. -/
theorem mem_relativeImports_dataClass {c : Context} {m : Model} {path : String}
    (h : path ∈ relativeImports (Artifact.dataClass.imports c m)) :
    ∃ r ∈ m.relationships, path = modelStem r.2.relatedName ++ ".dart" := by
  have hrelative : ∀ path ∈ (relatedStems m).map fun s => s ++ ".dart",
      Text.startsWith "package:" path = false := by
    intro path hpath
    obtain ⟨s, hs, rfl⟩ := List.mem_map.1 hpath
    obtain ⟨r, -, hstem⟩ := mem_relatedStems hs
    refine not_startsWith_package ?_
    rw [String.toList_append, List.mem_append, not_or, hstem]
    exact ⟨not_mem_modelStem (by decide) _, by decide⟩
  obtain ⟨packages, hpackages, himports⟩ := dataClass_imports_eq c m
  rw [himports, relativeImports_append, hpackages, List.nil_append,
    relativeImports_importLine hrelative] at h
  obtain ⟨s, hs, rfl⟩ := List.mem_map.1 h
  obtain ⟨r, hr, hstem⟩ := mem_relatedStems hs
  exact ⟨r, hr, congrArg (· ++ ".dart") hstem⟩

/-! ### Where imports lead -/

/-- A path in a file leads to a target: from the folder of the file it is followed to the target,
and joined with the folder it is collapsed to the same as the target. -/
structure LeadsTo (file path target : String) : Prop where
  followed : ((Path.ofString file).parent.follow (Path.ofString path)).text = target
  collapsed : ((Path.ofString file).parent.join (Path.ofString path)).collapse =
    (Path.ofString target).collapse

section

variable {o : OutputSettings} {base : String} {folder : Folder → String}
  (h : LaidOut o base folder) (hordinary : ∀ f, folder f ≠ "." ∧ folder f ≠ "..")
include h hordinary

/-- The path of a file in a folder. -/
theorem join_folderPath (f : Folder) (file : String) :
    (folderPath base folder f).join ⟨"", [file]⟩ =
      ⟨(Path.ofString base).root, (Path.ofString base).names ++ [folder f] ++ [file]⟩ := by
  rw [folderPath, ofString_segment (h.segments f), if_neg (hordinary f).1]
  simp [Path.join]

omit h hordinary in
/-- What a file of Dart is called does not lead up. -/
theorem append_dart_ne_dots (stem : String) : stem ++ ".dart" ≠ ".." := by
  intro heq
  have hlast := congrArg (fun s : String => s.toList.getLast?) heq
  simp [String.toList_append] at hlast

/-- The folder that a file lies in. -/
theorem parent_ofString_join (f : Folder) {file : String} (hfile : Path.IsName file) :
    (Path.ofString ((folderPath base folder f).join ⟨"", [file]⟩).text).parent =
      ⟨(Path.ofString base).root, (Path.ofString base).names ++ [folder f]⟩ := by
  rw [Path.ofString_text (isRead_folderPath_join base folder f hfile),
    join_folderPath h hordinary, Path.parent, List.dropLast_concat]

/-- A path to a file of another folder leads up, and from there into that folder. -/
theorem ofString_importPath {own target : Folder} (hne : target ≠ own) {stem : String}
    (hstem : '/' ∉ stem.toList) :
    Path.ofString (importPath o own target stem) =
      ⟨"", ["..", folder target, stem ++ ".dart"]⟩ := by
  have hnames : ∀ n ∈ ["..", folder target, stem ++ ".dart"], Path.IsName n := by
    intro n hn
    simp only [List.mem_cons, List.not_mem_nil, or_false] at hn
    rcases hn with rfl | rfl | rfl
    · decide
    · exact ⟨(h.segments target).1, (hordinary target).1, (h.segments target).2⟩
    · exact isName_append_dart hstem
  rw [importPath, if_neg hne, h.folders, Datum.display_text, ← Path.ofString_join hnames]
  congr 1
  simp [Text.join, String.intercalate_cons_cons, String.append_assoc]

/-- **A path from one folder to a file of another one leads there.** -/
theorem leadsTo_importPath (own target : Folder) {file stem : String} (hfile : Path.IsName file)
    (hstem : '/' ∉ stem.toList) :
    LeadsTo ((folderPath base folder own).join ⟨"", [file]⟩).text (importPath o own target stem)
      ((folderPath base folder target).join ⟨"", [stem ++ ".dart"]⟩).text := by
  have hname := isName_append_dart hstem
  have hdots := append_dart_ne_dots stem
  have hparent := parent_ofString_join h hordinary own hfile
  have htarget := Path.ofString_text (isRead_folderPath_join base folder target hname)
  rw [join_folderPath h hordinary] at htarget
  by_cases hown : target = own
  · -- A file of the same folder is imported by its name.
    subst hown
    have hpath : Path.ofString (importPath o target target stem) = ⟨"", [stem ++ ".dart"]⟩ := by
      rw [importPath_self, Path.ofString_name hname]
    have hfollow := Path.follow_sibling
      ⟨(Path.ofString base).root, (Path.ofString base).names ++ [folder target]⟩ hdots
    constructor
    · rw [hparent, hpath, hfollow, join_folderPath h hordinary]
    · rw [hparent, hpath, Path.collapse_follow_sibling _ hdots, hfollow,
        join_folderPath h hordinary, htarget]
  · -- Any other one is imported from beside its folder.
    have hpath := ofString_importPath h hordinary hown hstem
    have hfollow := @Path.follow_cousin (Path.ofString base).root (Path.ofString base).names
      (folder own) _ _ (hordinary target).2 hdots
    constructor
    · rw [hparent, hpath, hfollow, join_folderPath h hordinary, List.append_assoc]
      rfl
    · rw [hparent, hpath, Path.collapse_follow_cousin _ _ (hordinary own).2 (hordinary target).2
        hdots, hfollow, join_folderPath h hordinary, htarget, List.append_assoc]
      rfl

/-- The path by which a file imports another one of the same model leads there. -/
theorem Artifact.leadsTo_pathTo {m : Model} {own used : Artifact} (hown : own.Named m)
    (hused : used.Named m) :
    LeadsTo (own.place base folder m).text (own.pathTo o m used) (used.place base folder m).text :=
  leadsTo_importPath h hordinary _ _ (isName_file hown) (not_mem_stem (by decide) hused)

/-- The path by which a data class imports that of a related model leads to where this one is
placed. -/
theorem leadsTo_related {m : Model} (hm : Artifact.dataClass.Named m) (name : String) :
    ∃ q, Component.path o .model name = .ok q ∧
      LeadsTo (Artifact.dataClass.place base folder m).text (modelStem name ++ ".dart") q.text := by
  have hstem := not_mem_modelStem (c := '/') (by decide) name
  have hcalled : fileName name "" = modelStem name ++ ".dart" := by
    rw [fileName, String.append_empty, modelStem]
  have hname : Path.IsName (fileName name "") := hcalled ▸ isName_append_dart hstem
  have hplace := h.filePath_eq .models hname
  rw [hcalled] at hplace
  refine ⟨_, hplace, ?_⟩
  have hleads := leadsTo_importPath h hordinary .models .models (Artifact.isName_file hm) hstem
  rwa [importPath_self] at hleads

example : LeadsTo "out/screens/post_list_screen.dart" "../widgets/post_list.dart"
    "out/widgets/post_list.dart" :=
  ⟨by decide +kernel, by decide +kernel⟩

end

end Dart

/-! ### Plans -/

namespace Pipeline

open Dart (Artifact Component Folder)

variable {p : Pipeline} {base : String} {folder : Folder → String}

/-- Each file of a model is planned with the transport and for the model. -/
theorem exists_planned (base : String) (folder : Folder → String) (m : Model) (a : Artifact) :
    ∃ f ∈ (allFiles [m]).map (plannedAt base folder), f.path = (a.place base folder m).text := by
  by_cases htransport : a = .transport
  · subst htransport
    refine ⟨plannedAt base folder (.transport, default), List.mem_cons_self .., ?_⟩
    rw [path_plannedAt, Artifact.place, Artifact.place]
    rfl
  · refine ⟨plannedAt base folder (a, m), List.mem_map_of_mem ?_, path_plannedAt base folder a m⟩
    rw [allFiles, List.flatMap_singleton]
    exact List.mem_cons_of_mem _ (List.mem_map_of_mem (mem_modelArtifacts.2 htransport))

/-- **What planned files import is planned.**  For folders with ordinary names, and a model whose
name has a letter or a digit, each relative import of a file that is planned with the transport or
for the model leads to one of these files; only the imports of the data class lead to the data
classes of related models. -/
theorem leadsTo_of_planAll (h : Dart.LaidOut p.settings.output base folder)
    (hordinary : ∀ f, folder f ≠ "." ∧ folder f ≠ "..") {m : Model}
    (hname : ∃ c ∈ m.className.toList, c.isAlphanum = true) :
    ∃ plan, Yields (p.planAll [m]) (· = plan) ∧
      (p.settings.Usable → EndsIn (p.planAll [m]) .returns) ∧
      ∀ f ∈ plan, ∃ a n, f.source = .artifact a n ∧ ∀ c : Dart.Context, c.settings = p.settings →
        ∀ path ∈ Dart.relativeImports (a.imports c n),
          (∃ g ∈ plan, Dart.LeadsTo f.path path g.path) ∨
          (a = .dataClass ∧ ∃ r ∈ m.relationships, ∃ q,
            Component.path p.settings.output .model r.2.relatedName = .ok q ∧
              Dart.LeadsTo f.path path q.text) := by
  have hwords : Naming.words m.className ≠ [] := by
    intro hnil
    obtain ⟨c, hc, halnum⟩ := hname
    rw [(Naming.words_eq_nil_iff _).1 hnil c hc] at halnum
    exact absurd halnum (by decide)
  refine ⟨_, yields_planAll h (by simpa using hwords),
    fun husable => endsIn_planAll husable [m], ?_⟩
  intro f hf
  obtain ⟨⟨a, n⟩, hfile, rfl⟩ := List.mem_map.1 hf
  refine ⟨a, n, rfl, fun c hc path hpath => ?_⟩
  rcases List.mem_cons.1 hfile with htransport | hmodel
  · -- The transport imports nothing.
    obtain ⟨rfl, rfl⟩ := Prod.mk.inj htransport
    exact absurd hpath List.not_mem_nil
  · rw [List.flatMap_singleton] at hmodel
    obtain ⟨a', -, heq⟩ := List.mem_map.1 hmodel
    obtain ⟨rfl, rfl⟩ := Prod.mk.inj heq
    by_cases hdata : a' = .dataClass
    · -- The data classes of related models need not be planned, but their places are known.
      subst hdata
      obtain ⟨r, hr, rfl⟩ := Dart.mem_relativeImports_dataClass hpath
      obtain ⟨q, hplace, hleads⟩ :=
        Dart.leadsTo_related h hordinary (fun _ => hwords) r.2.relatedName
      refine .inr ⟨rfl, r, hr, q, hplace, ?_⟩
      rwa [path_plannedAt]
    · -- Any other file imports what it uses, and that is planned with it.
      rw [Artifact.relativeImports_imports c hwords hdata, hc] at hpath
      obtain ⟨b, -, rfl⟩ := List.mem_map.1 hpath
      have hown : a'.Named m := fun _ => hwords
      have hused : b.Named m := fun _ => hwords
      have hleads := Artifact.leadsTo_pathTo h hordinary hown hused
      obtain ⟨g, hg, hplace⟩ := exists_planned base folder m b
      refine .inl ⟨g, hg, ?_⟩
      rwa [path_plannedAt, hplace]

theorem leadsTo_of_planAll_blogPost :
    let m : Backend.Manifest := ⟨"manifest.json", .ofTables [], .object [], []⟩
    let p : Pipeline := ⟨m.backend, .standard, none⟩
    let author : Relationship := { (default : Relationship) with related := "app.models.User" }
    let post : Model :=
      { (default : Model) with className := "BlogPost", relationships := [("author", author)] }
    ∃ plan, Yields (p.planAll [post]) (· = plan) ∧ EndsIn (p.planAll [post]) .returns ∧
      ∀ f ∈ plan, ∃ a n, f.source = .artifact a n ∧ ∀ c : Dart.Context, c.settings = p.settings →
        ∀ path ∈ Dart.relativeImports (a.imports c n),
          (∃ g ∈ plan, Dart.LeadsTo f.path path g.path) ∨
          (a = .dataClass ∧ ∃ q,
            Component.path p.settings.output .model author.relatedName = .ok q ∧
              Dart.LeadsTo f.path path q.text) := by
  intro m p author post
  have hordinary : ∀ f : Folder, f.section ≠ "." ∧ f.section ≠ ".." := by
    intro f
    cases f <;> decide
  obtain ⟨plan, hplan, hreturns, himports⟩ := @leadsTo_of_planAll p _ _ Dart.laidOut_standard
    hordinary post ⟨'B', by decide, by decide⟩
  refine ⟨plan, hplan, hreturns Settings.usable_standard, fun f hf => ?_⟩
  obtain ⟨a, n, hsource, hleads⟩ := himports f hf
  refine ⟨a, n, hsource, fun c hc path hpath => ?_⟩
  rcases hleads c hc path hpath with hplanned | ⟨ha, r, hr, hrelated⟩
  · exact .inl hplanned
  · have hauthor : r = ("author", author) := List.mem_singleton.1 hr
    rw [hauthor] at hrelated
    exact .inr ⟨ha, hrelated⟩

end Pipeline

end DartScaffold
