/-
**Where planned files are placed.**

A planned file lies in the folder of its component, below the base folder, and is named by the words
of its model with further words behind them; the transport has a name of its own.  Which name a
generator asks for, and how it is brought into its form once more, does not matter: for a model
whose name has words the file is called as the other files refer to it.  With a folder for each
component the place of a file tells its folder and the words that it is named by.

Main definitions:

* `Dart.LaidOut` — settings that name a base folder and a folder for each component in it;
* `Dart.Artifact.stem`, `Dart.Artifact.fileWords` — what a file is called, and the words of that;
* `Dart.Artifact.place` — where a file lies;
* `Pipeline.planAll`, `Pipeline.allFiles` — the plan for the transport and all files of some models.

Main results:

* `Dart.Artifact.stem_eq`, `Dart.Artifact.fileName_outputName` — **what a file is called**;
* `Dart.Artifact.path_eq` — a file lies at its place;
* `Dart.Artifact.place_inj` — files at one place lie in one folder and have the same words;
* `Pipeline.yields_planAll` — **what is planned** for several models.
-/

import Mathlib
import DartScaffold.Proofs.Files.WrittenPath
import DartScaffold.Proofs.Naming.Joined
import DartScaffold.Proofs.Pipeline.Planning

set_option relaxedAutoImplicit false
set_option autoImplicit false

namespace DartScaffold

open Dart (Artifact Component Folder)
open Naming (IsWord)

/-! ### Names of files -/

namespace Dart

/-- The words of a name with further ones behind them. -/
theorem join_append_words {ws more : List String} (hws : ws ≠ []) (hmore : more ≠ []) :
    Text.join "_" (ws ++ more) = Text.join "_" ws ++ "_" ++ Text.join "_" more :=
  String.intercalate_append_of_ne_nil hws hmore

namespace Artifact

/-- What a file is called without its ending. -/
def stem (m : Model) : Artifact → String
  | .dataClass => modelStem m.className
  | .service => modelStem m.className ++ "_service"
  | .widget kind => widgetStem m kind
  | .screen kind => screenStem m kind
  | .transport => "api_service"

/-- The words of a file that are those of its model. -/
def modelWords (m : Model) : Artifact → List String
  | .transport => []
  | _ => Naming.words m.className

/-- The words behind them. -/
def ownWords : Artifact → List String
  | .dataClass => []
  | .service => ["service"]
  | .widget kind => [kind.name]
  | .screen kind => [kind.name, "screen"]
  | .transport => ["api", "service"]

/-- The words that a file is named by. -/
def fileWords (m : Model) (a : Artifact) : List String := a.modelWords m ++ a.ownWords

theorem isWord_of_mem_fileWords {m : Model} {a : Artifact} {w : String}
    (h : w ∈ a.fileWords m) : IsWord w := by
  rcases List.mem_append.1 h with hw | hw
  · cases a with
    | transport => exact absurd hw List.not_mem_nil
    | _ => exact Naming.isWord_of_mem hw
  · have hown : ∀ w ∈ a.ownWords, IsWord w := by
      cases a with
      | widget kind => cases kind <;> decide
      | screen kind => cases kind <;> decide
      | _ => decide
    exact hown w hw

/-- A file that has a name: the transport always has one, any other one if its model has. -/
def Named (m : Model) (a : Artifact) : Prop := a ≠ .transport → Naming.words m.className ≠ []

variable {m : Model} {a : Artifact}

/-- **What a file is called** is made of its words. -/
theorem stem_eq (hm : a.Named m) : a.stem m = Text.join "_" (a.fileWords m) := by
  have hone : ∀ w, Text.join "_" [w] = w := fun w => String.intercalate_singleton
  have hbehind : ∀ s : String, s ++ "_" ++ "screen" = s ++ "_screen" :=
    fun s => String.append_assoc
  cases a with
  | dataClass =>
      show _ = Text.join "_" (Naming.words m.className ++ [])
      rw [List.append_nil]
      rfl
  | service =>
      show _ = Text.join "_" (Naming.words m.className ++ ["service"])
      rw [join_append_words (hm nofun) (List.cons_ne_nil _ _), hone, String.append_assoc]
      rfl
  | widget kind =>
      show _ = Text.join "_" (Naming.words m.className ++ [kind.name])
      rw [join_append_words (hm nofun) (List.cons_ne_nil _ _), hone]
      rfl
  | screen kind =>
      show _ = Text.join "_" (Naming.words m.className ++ ([kind.name] ++ ["screen"]))
      rw [join_append_words (hm nofun) (by simp), join_append_words (by simp) (by simp), hone, hone,
        ← String.append_assoc, ← String.append_assoc, hbehind]
      rfl
  | transport => rfl

/-- The name that a generator asks for leads to the file that the others refer to. -/
theorem fileName_outputName (hm : a.Named m) :
    fileName (a.outputName m) a.component.ending = a.stem m ++ ".dart" := by
  -- A name that is made of words is not changed when it is brought into its form again.
  have hagain : Naming.snake (a.stem m) ++ "" = a.stem m := by
    rw [String.append_empty, stem_eq hm]
    exact Naming.snake_join fun w hw => isWord_of_mem_fileWords hw
  cases a with
  | dataClass => exact congrArg (· ++ ".dart") String.append_empty
  | service => rfl
  | widget kind => exact congrArg (· ++ ".dart") hagain
  | screen kind => exact congrArg (· ++ ".dart") hagain
  | transport => exact congrArg (· ++ ".dart") hagain

end Artifact

/-! ### Places of files -/

/-- Settings that name a base folder, and a folder for each component by a single name. -/
structure LaidOut (o : OutputSettings) (base : String) (folder : Folder → String) : Prop where
  base : o.basePath = .text base
  folders : ∀ f : Folder, f.setting o = .text (folder f)
  segments : ∀ f : Folder, folder f ≠ "" ∧ '/' ∉ (folder f).toList

/-- The usual folders. -/
theorem laidOut_standard : LaidOut Settings.standard.output "flutter_output" Folder.section where
  base := rfl
  folders := by intro f; cases f <;> rfl
  segments := by intro f; cases f <;> decide

/-- A single name is read as a path of this name, if it is not the dot. -/
theorem ofString_segment {s : String} (hs : s ≠ "" ∧ '/' ∉ s.toList) :
    Path.ofString s = ⟨"", if s = "." then [] else [s]⟩ := by
  by_cases hdot : s = "."
  · rw [hdot]
    rfl
  · rw [if_neg hdot]
    exact Path.ofString_name ⟨hs.1, hdot, hs.2⟩

/-- Single names that are read alike are the same, also where one of them is the dot. -/
theorem names_segment_inj {s t : String} (hs : s ≠ "" ∧ '/' ∉ s.toList)
    (ht : t ≠ "" ∧ '/' ∉ t.toList) (h : (Path.ofString s).names = (Path.ofString t).names) :
    s = t := by
  rw [ofString_segment hs, ofString_segment ht] at h
  by_cases hdot : s = "."
  · by_cases hdot' : t = "."
    · rw [hdot, hdot']
    · simp [hdot, hdot'] at h
  · by_cases hdot' : t = "."
    · simp [hdot, hdot'] at h
    · simpa [hdot, hdot'] using h

/-- The path of a folder below the base. -/
def folderPath (base : String) (folder : Folder → String) (f : Folder) : Path :=
  (Path.ofString base).join (Path.ofString (folder f))

theorem directory_of_texts {o : OutputSettings} {base : String} {folder : Folder → String}
    {f : Folder} (hbase : o.basePath = .text base) (hfolder : f.setting o = .text (folder f)) :
    directory o f = .ok (folderPath base folder f) := by
  unfold directory
  rw [hbase, hfolder]
  rfl

theorem LaidOut.directory_eq {o : OutputSettings} {base : String} {folder : Folder → String}
    (h : LaidOut o base folder) (f : Folder) : directory o f = .ok (folderPath base folder f) :=
  directory_of_texts h.base (h.folders f)

theorem LaidOut.filePath_eq {o : OutputSettings} {base : String} {folder : Folder → String}
    (h : LaidOut o base folder) (f : Folder) {name ending : String}
    (hname : Path.IsName (fileName name ending)) :
    filePath o f name ending =
      .ok ((folderPath base folder f).join ⟨"", [fileName name ending]⟩) := by
  unfold filePath
  rw [h.directory_eq, Path.ofString_name hname]
  rfl

/-- A name in a folder is a path that reading gives. -/
theorem isRead_folderPath_join (base : String) (folder : Folder → String) (f : Folder)
    {name : String} (h : Path.IsName name) :
    ((folderPath base folder f).join ⟨"", [name]⟩).IsRead := by
  have hname : Path.IsRead ⟨"", [name]⟩ := by
    refine ⟨List.mem_cons_self .., fun n hn => ?_⟩
    rwa [List.mem_singleton.1 hn]
  exact ((Path.isRead_ofString _).join (Path.isRead_ofString _)).join hname

/-- Where a file lies. -/
def Artifact.place (base : String) (folder : Folder → String) (m : Model) (a : Artifact) : Path :=
  (folderPath base folder a.component.folder).join ⟨"", [a.stem m ++ ".dart"]⟩

/-- What a file of Dart is called is a name on the way of a path. -/
theorem isName_append_dart {stem : String} (h : '/' ∉ stem.toList) :
    Path.IsName (stem ++ ".dart") := by
  have hlength : (stem ++ ".dart").toList.length = stem.toList.length + 5 := by
    rw [String.toList_append, List.length_append]
    rfl
  refine ⟨?_, ?_, ?_⟩
  · intro heq
    rw [heq] at hlength
    simp at hlength
  · intro heq
    rw [heq] at hlength
    simp at hlength
  · rw [String.toList_append, List.mem_append, not_or]
    exact ⟨h, by decide⟩

/-- Words with low lines between them hold nothing else. -/
theorem not_mem_join {c : Char} (hc : Naming.isWordLetter c = false ∧ c ≠ '_') {ws : List String}
    (h : ∀ w ∈ ws, IsWord w) : c ∉ (Text.join "_" ws).toList :=
  Naming.not_mem_of_isSmall (Naming.isSmall_join h) hc

theorem not_mem_modelStem {c : Char} (hc : Naming.isWordLetter c = false ∧ c ≠ '_')
    (name : String) : c ∉ (modelStem name).toList :=
  Naming.not_mem_of_isSmall (Naming.isSmall_snake name) hc

section

variable {o : OutputSettings} {folder : Folder} {path : Path} {name ending : String}

/-- The path of a folder is one that reading gives. -/
theorem isRead_of_directory (h : directory o folder = .ok path) : path.IsRead := by
  unfold directory at h
  cases hbase : o.basePath with
  | text base =>
      rw [hbase] at h
      cases hfolder : folder.setting o with
      | text own =>
          rw [hfolder] at h
          obtain rfl := Except.ok.inj h
          exact (Path.isRead_ofString _).join (Path.isRead_ofString _)
      | _ =>
          rw [hfolder] at h
          cases h
  | _ =>
      rw [hbase] at h
      cases h

/-- What a generated file is called is a name on the way of a path. -/
theorem isName_fileName (hending : '/' ∉ ending.toList) : Path.IsName (fileName name ending) := by
  refine isName_append_dart ?_
  rw [String.toList_append, List.mem_append, not_or]
  exact ⟨not_mem_modelStem (by decide) name, hending⟩

/-- A generated file lies in its folder. -/
theorem filePath_eq_ok (hending : '/' ∉ ending.toList)
    (h : filePath o folder name ending = .ok path) :
    path.IsRead ∧ path.names.getLast? = some (fileName name ending) := by
  have hname : Path.IsName (fileName name ending) := isName_fileName hending
  obtain ⟨d, hd, hjoin⟩ := exists_of_bind_eq_ok h
  obtain rfl := Except.ok.inj hjoin
  refine ⟨(isRead_of_directory hd).join (Path.isRead_ofString _), ?_⟩
  rw [Path.ofString_name hname, Path.join, if_pos rfl, List.getLast?_concat]

end

namespace Artifact

variable {o : OutputSettings} {base : String} {folder : Folder → String}

/-- What a file is called consists of small letters, digits and low lines. -/
theorem not_mem_stem {c : Char} (hc : Naming.isWordLetter c = false ∧ c ≠ '_') {m : Model}
    {a : Artifact} (hm : a.Named m) : c ∉ (a.stem m).toList := by
  rw [stem_eq hm]
  exact not_mem_join hc fun w hw => isWord_of_mem_fileWords hw

theorem isName_file {m : Model} {a : Artifact} (hm : a.Named m) :
    Path.IsName (a.stem m ++ ".dart") :=
  isName_append_dart (not_mem_stem (by decide) hm)

/-- Where a file lies is a path that reading gives. -/
theorem isRead_place (base : String) (folder : Folder → String) {m : Model} {a : Artifact}
    (hm : a.Named m) : (a.place base folder m).IsRead :=
  isRead_folderPath_join base folder _ (isName_file hm)

/-- A file lies at its place. -/
theorem path_eq (h : LaidOut o base folder) {m : Model} {a : Artifact} (hm : a.Named m) :
    a.path o m = .ok (a.place base folder m) := by
  have hname := isName_file hm
  rw [← fileName_outputName hm] at hname
  unfold Artifact.path Component.path Artifact.place
  rw [h.filePath_eq _ hname, fileName_outputName hm]

/-- Files at one place lie in one folder and have the same words. -/
theorem place_inj (h : LaidOut o base folder) (hfolder : Function.Injective folder)
    {m m' : Model} {a b : Artifact} (ha : a.Named m) (hb : b.Named m') :
    a.place base folder m = b.place base folder m' ↔
      a.component.folder = b.component.folder ∧ a.fileWords m = b.fileWords m' := by
  have hplace : ∀ (a : Artifact) (m : Model), a.place base folder m =
      ⟨(Path.ofString base).root, (Path.ofString base).names ++
        (Path.ofString (folder a.component.folder)).names ++ [a.stem m ++ ".dart"]⟩ := by
    intro a m
    rw [Artifact.place, folderPath, ofString_segment (h.segments _)]
    simp [Path.join]
  constructor
  · intro heq
    rw [hplace, hplace, Path.mk.injEq] at heq
    obtain ⟨hdirectory, hfile⟩ := List.append_inj' heq.2 rfl
    constructor
    · have hnames := List.append_cancel_left hdirectory
      exact hfolder (names_segment_inj (h.segments _) (h.segments _) hnames)
    · have hstem : (a.stem m).toList = (b.stem m').toList := by
        have hchars := congrArg String.toList (List.singleton_inj.1 hfile)
        rw [String.toList_append, String.toList_append] at hchars
        exact List.append_cancel_right hchars
      -- What a file is called tells its words, since they are found again in it.
      have hwords := congrArg Naming.words (String.toList_inj.1 hstem)
      rwa [stem_eq ha, stem_eq hb,
        Naming.words_join (c := '_') rfl (by decide) fun w hw => isWord_of_mem_fileWords hw,
        Naming.words_join (c := '_') rfl (by decide) fun w hw => isWord_of_mem_fileWords hw]
        at hwords
  · rintro ⟨hfolders, hwords⟩
    rw [hplace, hplace, hfolders, stem_eq ha, stem_eq hb, hwords]

end Artifact

end Dart

/-! ### Plans -/

namespace Pipeline

/-- The plan for a file of a model at its place. -/
def plannedAt (base : String) (folder : Folder → String) (f : Artifact × Model) : Planned :=
  ⟨label f.1, (f.1.place base folder f.2).text, .artifact f.1 f.2, f.2.className⟩

theorem path_plannedAt (base : String) (folder : Folder → String) (a : Artifact) (m : Model) :
    (plannedAt base folder (a, m)).path = (a.place base folder m).text := by
  rw [plannedAt]

/-- The plan for the transport and for all files of some models. -/
def planAll (p : Pipeline) (ms : List Model) : Work (List Planned) := do
  let base ← p.planBase
  let plans ← ms.mapM fun m => p.planModel m (.list (Group.names.map .text))
  return base ++ plans.flatten

/-- The files that there are for a model. -/
def modelArtifacts : List Artifact := Group.all.flatMap Group.artifacts

/-- There is each of them but the transport. -/
theorem mem_modelArtifacts {a : Artifact} : a ∈ modelArtifacts ↔ a ≠ .transport := by
  unfold modelArtifacts
  cases a with
  | widget kind => cases kind <;> simp [Group.all, Group.artifacts, Dart.WidgetKind.all]
  | screen kind => cases kind <;> simp [Group.all, Group.artifacts, Dart.ScreenKind.all]
  | _ => simp [Group.all, Group.artifacts]

/-- All files of a model. -/
def modelFiles (m : Model) : List (Artifact × Model) := modelArtifacts.map fun a => (a, m)

/-- The transport, which belongs to no model, and all files of some models. -/
def allFiles (ms : List Model) : List (Artifact × Model) :=
  (.transport, default) :: ms.flatMap modelFiles

variable {p : Pipeline} {base : String} {folder : Folder → String}
  (h : Dart.LaidOut p.settings.output base folder)
include h

theorem planTransport_eq :
    planTransport p.settings.output = .ok [plannedAt base folder (.transport, default)] := by
  have hpath : Artifact.transportPath p.settings.output =
      .ok (Artifact.transport.place base folder default) :=
    Artifact.path_eq h fun hne => absurd rfl hne
  unfold planTransport
  rw [hpath]
  rfl

theorem planFiles_eq {m : Model} (hm : Naming.words m.className ≠ []) :
    planFiles p.settings.output m Group.names =
      .ok ((modelFiles m).map (plannedAt base folder)) := by
  have hfile : ∀ a, planFile p.settings.output m a = .ok (plannedAt base folder (a, m)) := by
    intro a
    unfold planFile
    rw [Artifact.path_eq h fun _ => hm]
    rfl
  rw [planFiles, chosen_names, mapM_eq_ok fun a _ => hfile a, modelFiles, List.map_map]
  rfl

/-- **What is planned** for several models: the transport and all of their files, each at its
place. -/
theorem yields_planAll {ms : List Model} (hms : ∀ m ∈ ms, Naming.words m.className ≠ []) :
    Yields (p.planAll ms) (· = (allFiles ms).map (plannedAt base folder)) := by
  -- Each model is planned alone, and the files of all of them come behind the transport.
  have hmodels : (ms.mapM fun m => planFiles p.settings.output m Group.names) =
      .ok (ms.map fun m => (modelFiles m).map (plannedAt base folder)) :=
    mapM_eq_ok fun m hm => planFiles_eq h (hms m hm)
  unfold planAll
  refine Yields.bind (yields_planBase p) fun base hbase => ?_
  rw [planTransport_eq h] at hbase
  obtain rfl := Except.ok.inj hbase
  refine Yields.bind (Yields.mapM_uses fun m _ => yields_planFiles p m Group.names)
    fun plans hplans => Yields.pure ?_
  rw [hmodels] at hplans
  obtain rfl := Except.ok.inj hplans
  rw [allFiles, List.map_cons, List.map_flatMap, List.flatMap_def]
  rfl

omit h in
/-- With settings that can be worked with the plan is made. -/
theorem endsIn_planAll (h : p.settings.Usable) (ms : List Model) :
    EndsIn (p.planAll ms) .returns := by
  unfold planAll
  refine (endsIn_planBase h).bind fun base => ?_
  exact (EndsIn.mapM fun m _ => endsIn_planModel h m Group.names).bind fun plans => EndsIn.pure _

end Pipeline

end DartScaffold
