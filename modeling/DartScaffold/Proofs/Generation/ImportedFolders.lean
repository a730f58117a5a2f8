/-
**Folders within folders.**

The settings may put a folder deeper than right below the base.  A path by which a file imports one
of another folder goes up once, whatever the depth of its own folder is, and then down to the other
one.  So it starts at the directory above the own folder, which is the base if the own folder has a
single name, and no other directory that would do.  Within its own folder a file is imported by its
name alone, which is right at any depth.

Main definitions:

* `Path.Descends` — a relative path that leads down;
* `Dart.Nested` — settings whose folders lie somewhere below the base;
* `Dart.landing` — the folder that an imported file is looked for in.

Main results:

* `Path.collapse_leave` — a directory that is left again can be left out;
* `Dart.Nested.landing_of_ne` — where files of other folders are looked for;
* `Dart.landing_eq_iff` — **in the right folder**, if the own one has a single name, and else only
  the files beside the importing one.
-/

import DartScaffold.Proofs.Generation.Imports

set_option relaxedAutoImplicit false
set_option autoImplicit false

namespace DartScaffold

/-! ### Paths that lead down -/

namespace Path

/-- A relative path of one or more names, none of which leads up. -/
structure Descends (p : Path) : Prop where
  root : p.root = ""
  names : p.names ≠ []
  down : ".." ∉ p.names

/-- Names that lead down are kept. -/
theorem foldl_collapseName (root : String) (done : List String) {names : List String}
    (h : ".." ∉ names) : names.foldl (collapseName root) done = done ++ names := by
  induction names generalizing done with
  | nil => simp
  | cons n names ih =>
      rw [List.mem_cons, not_or] at h
      have hstep : collapseName root done n = done ++ [n] := if_neg (Ne.symm h.1)
      rw [List.foldl_cons, hstep, ih _ h.2]
      simp

/-- Behind a path that leads down they are added to what is left of what is before. -/
theorem collapse_append (root : String) (names : List String) {more : List String}
    (h : ".." ∉ more) :
    collapse ⟨root, names ++ more⟩ = ⟨root, (collapse ⟨root, names⟩).names ++ more⟩ := by
  rw [collapse, List.foldl_append, foldl_collapseName root _ h]
  rfl

/-- A directory that is left again can be left out. -/
theorem collapse_leave (root : String) (names : List String) {n : String} (hn : n ≠ "..")
    (more : List String) :
    collapse ⟨root, names ++ [n] ++ ".." :: more⟩ = collapse ⟨root, names ++ more⟩ := by
  simp only [collapse, List.foldl_append, List.foldl_cons, List.foldl_nil,
    collapseName_leave root _ hn]

/-- The names of two texts with a slash between them. -/
theorem names_ofString_slash (s t : String) :
    (ofString (s ++ "/" ++ t)).names = (ofString s).names ++ (ofString t).names := by
  have hchars : (s ++ "/" ++ t).toList = s.toList ++ '/' :: t.toList := by simp
  simp only [ofString, Text.split, hchars, List.splitOn_append_cons_self, List.map_append,
    List.filter_append]

end Path

namespace Dart

/-! ### Folders below the base -/

/-- Settings that name a base folder, and a folder for each component somewhere below it. -/
structure Nested (o : OutputSettings) (base : String) (folder : Folder → String) : Prop where
  base : o.basePath = .text base
  folders : ∀ f : Folder, f.setting o = .text (folder f)
  descends : ∀ f : Folder, (Path.ofString (folder f)).Descends

/-- The folder in which a file of the directory `here` looks for what it imports, without what is
left again on the way. -/
def landing (o : OutputSettings) (own target : Folder) (stem : String) (here : Path) : Path :=
  (here.join (Path.ofString (importPath o own target stem)).parent).collapse

section

variable {o : OutputSettings} {base : String} {folder : Folder → String}
  (h : Nested o base folder)
include h

theorem Nested.directory_eq (f : Folder) :
    directory o f = .ok ⟨(Path.ofString base).root,
      (Path.ofString base).names ++ (Path.ofString (folder f)).names⟩ := by
  rw [directory_of_texts h.base (h.folders f), folderPath, Path.join, if_pos (h.descends f).root]

omit h in
/-- In its own folder a file is looked for right there. -/
theorem parent_importPath_self (own : Folder) {stem : String} (hstem : '/' ∉ stem.toList) :
    (Path.ofString (importPath o own own stem)).parent = ⟨"", []⟩ := by
  rw [importPath_self, Path.ofString_name (isName_append_dart hstem)]
  rfl

/-- Any other folder is gone to from the directory above. -/
theorem Nested.parent_importPath {own target : Folder} (hne : target ≠ own) {stem : String}
    (hstem : '/' ∉ stem.toList) :
    (Path.ofString (importPath o own target stem)).parent =
      ⟨"", ".." :: (Path.ofString (folder target)).names⟩ := by
  have hpath : importPath o own target stem =
      ".." ++ "/" ++ folder target ++ "/" ++ (stem ++ ".dart") := by
    rw [importPath, if_neg hne, h.folders, Datum.display_text]
    simp [String.append_assoc]
  have hroot : (Path.ofString (importPath o own target stem)).root = "" := by
    rw [hpath]
    simp [Path.ofString, Path.rootOf]
  have hnames : (Path.ofString (importPath o own target stem)).names =
      [".."] ++ (Path.ofString (folder target)).names ++ [stem ++ ".dart"] := by
    rw [hpath, Path.names_ofString_slash, Path.names_ofString_slash,
      Path.ofString_name (isName_append_dart hstem), Path.ofString_name (by decide)]
  rw [Path.parent, hroot, hnames, List.dropLast_concat, List.singleton_append]

/-- Where files of other folders are looked for. -/
theorem Nested.landing_of_ne {own target : Folder} (hne : target ≠ own) {stem : String}
    (hstem : '/' ∉ stem.toList) {here : Path} (hhere : directory o own = .ok here) :
    landing o own target stem here =
      (here.parent.join (Path.ofString (folder target))).collapse := by
  obtain rfl := Except.ok.inj (hhere.symm.trans (h.directory_eq own))
  obtain ⟨above, n, hsplit⟩ := List.eq_nil_or_concat'
      (Path.ofString (folder own)).names |>.resolve_left (h.descends own).names
  have hn : n ≠ ".." := by
    rintro rfl
    exact (h.descends own).down (by simp [hsplit])
  rw [landing, h.parent_importPath hne hstem, hsplit, Path.join, if_pos rfl, Path.parent, Path.join,
    if_pos (h.descends target).root, ← List.append_assoc, List.dropLast_concat,
    Path.collapse_leave _ _ hn]

/-- **Files are looked for in the right folder** if it is the own one, or if the own one is a single
name below the base.  If it is deeper, no other folder is found. -/
theorem landing_eq_iff (own target : Folder) {stem : String} (hstem : '/' ∉ stem.toList) :
    ∃ here there, directory o own = .ok here ∧ directory o target = .ok there ∧
      (target ≠ own → landing o own target stem here =
        (here.parent.join (Path.ofString (folder target))).collapse) ∧
      (landing o own target stem here = there.collapse ↔
        target = own ∨ (Path.ofString (folder own)).names.length = 1) := by
  refine ⟨_, _, h.directory_eq own, h.directory_eq target,
    fun hne => h.landing_of_ne hne hstem (h.directory_eq own), ?_⟩
  by_cases hown : target = own
  · subst hown
    refine iff_of_true ?_ (.inl rfl)
    rw [landing, parent_importPath_self target hstem, Path.join_nil]
  · have hup : ".." ∉ (Path.ofString (folder own)).names.dropLast :=
      fun hmem => (h.descends own).down (List.mem_of_mem_dropLast hmem)
    have hlength : 0 < (Path.ofString (folder own)).names.length :=
      List.length_pos_iff.2 (h.descends own).names
    rw [h.landing_of_ne hown hstem (h.directory_eq own), Path.parent, Path.join,
      if_pos (h.descends target).root, List.dropLast_append_of_ne_nil (h.descends own).names,
      Path.collapse_append _ _ (h.descends target).down,
      Path.collapse_append _ _ (h.descends target).down, Path.collapse_append _ _ hup,
      Path.mk.injEq, List.append_left_inj, List.append_right_eq_self, ← List.length_eq_zero_iff,
      List.length_dropLast]
    simp only [true_and, hown, false_or]
    omega

end

/-- Data classes in a folder two directories below the base. -/
def deepFolder : Folder → String
  | .models => "lib/models"
  | f => f.section

/-- They look for services in a folder `lib/services`, as the base is one more directory above. -/
theorem landing_eq_iff_deep :
    let o : OutputSettings := { Settings.standard.output with modelsPath := .text "lib/models" }
    let here := Path.ofString "flutter_output/lib/models"
    Nested o "flutter_output" deepFolder ∧ '/' ∉ "x".toList ∧ directory o .models = .ok here ∧
      landing o .models .services "x" here = Path.ofString "flutter_output/lib/services" ∧
      ∃ there, directory o .services = .ok there ∧
        landing o .models .services "x" here ≠ there.collapse := by
  intro o here
  have h : Nested o "flutter_output" deepFolder := {
    base := rfl
    folders := by intro f; cases f <;> rfl
    descends := by
      intro f
      cases f <;> exact ⟨by decide +kernel, by decide +kernel, by decide +kernel⟩ }
  have hstem : '/' ∉ "x".toList := by decide
  have hhere : directory o .models = .ok here := by decide +kernel
  obtain ⟨here', there, hhere', hthere, hlands, hiff⟩ := landing_eq_iff h .models .services hstem
  obtain rfl : here = here' := Except.ok.inj (hhere.symm.trans hhere')
  refine ⟨h, hstem, hhere, ?_, there, hthere, ?_⟩
  · rw [hlands (by decide)]
    decide +kernel
  · rw [ne_eq, hiff]
    decide +kernel

end Dart

end DartScaffold
