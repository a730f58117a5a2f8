/-
**Looking up files while others are added.**

Templates are looked up in a directory, and the run that looks them up writes files of its own,
maybe into the same directory.  What has been found is found again, as long as the files at the
places that are looked at stay what they are.  And what has not been found is not found later
either, if all that is added goes by other names: since the directory could be followed before, a
file that is found in it later has been put there in between.  Likewise a directory that is there
stays there, and a name that is too long stays too long; the only answer that may change is that
there is no directory.

Main definitions:

* `FileTree.Adds` — a tree grows, what is watched does not change, and all new files are of a kind.

Main results:

* `FileTree.steady_of_locate` — a path that can be followed is steady;
* `FileTree.Grows.isDirectory`, `FileTree.Grows.isDirectory_eq` — what is known about a directory;
* `FileTree.Adds.read` — **what was found is found again**;
* `FileTree.Adds.isFile_eq_false`, `FileTree.Adds.isFile_eq_false_of_new` — **what was not found is
  not found later**, also if the directory itself is new.
-/

import Mathlib
import DartScaffold.Proofs.Files.Growth

set_option relaxedAutoImplicit false
set_option autoImplicit false

namespace DartScaffold.FileTree

variable {t t' t'' : FileTree} {p d : Path} {loc : Location} {names : List String}

/-! ### Paths that can be followed -/

/-- A name is looked up in a directory. -/
theorem directory_of_follow {before after : List String} {name : String} {loc₀ : Location}
    (h : t.follow loc₀ (before ++ name :: after) = .ok loc) :
    t.node? (before.foldl enter loc₀) = some .directory := by
  induction before generalizing loc₀ with
  | nil =>
      rw [List.nil_append, follow] at h
      split at h
      · cases h
      · cases h
      · assumption
  | cons first before ih =>
      rw [List.cons_append, follow] at h
      split at h
      · cases h
      · cases h
      · split at h
        · cases h
        · exact ih h

/-- A path that can be followed is steady. -/
theorem steady_of_locate (h : t.locate p = .ok loc) : t.Steady p := by
  intro before after hnames
  unfold locate at h
  split at h
  · cases h
  · split at h
    · cases h
    · rw [hnames] at h
      exact directory_of_follow h

/-- A path that is too long stays so. -/
theorem Grows.follow_nameTooLong (h : t.Grows t') {loc₀ : Location}
    (hf : t.follow loc₀ names = .error .nameTooLong) :
    t'.follow loc₀ names = .error .nameTooLong := by
  induction names generalizing loc₀ with
  | nil => cases hf
  | cons name rest ih =>
      unfold FileTree.follow at hf ⊢
      split at hf
      · cases hf
      · cases hf
      · rename_i hd
        rw [h.directory loc₀ hd]
        split at hf
        · rename_i hlong
          exact if_pos hlong
        · rename_i hshort
          exact (if_neg hshort).trans (ih hf)

theorem Grows.locate_nameTooLong (h : t.Grows t') (hl : t.locate p = .error .nameTooLong) :
    t'.locate p = .error .nameTooLong := by
  unfold FileTree.locate at hl ⊢
  rw [h.here]
  split at hl
  · cases hl
  · rename_i hnull
    rw [if_neg hnull]
    split at hl
    · rename_i hlong
      rw [if_pos hlong]
    · rename_i hshort
      rw [if_neg hshort]
      exact h.follow_nameTooLong hl

/-! ### Whether there is a directory -/

theorem isDirectory_eq_true_iff : t.isDirectory p = .ok true ↔ t.status p = .ok .directory := by
  unfold isDirectory
  cases t.status p with
  | ok node => simp
  | error fault => cases fault <;> simp

/-- Only a name that is too long is no answer. -/
theorem isDirectory_eq_error {e : FileError} (h : t.isDirectory p = .error e) :
    t.locate p = .error .nameTooLong ∧ e = ⟨.nameTooLong, p.text⟩ := by
  unfold isDirectory status at h
  cases hloc : t.locate p with
  | error fault =>
      rw [hloc] at h
      cases fault <;> first | exact ⟨rfl, (Except.error.inj h).symm⟩ | cases h
  | ok loc =>
      rw [hloc] at h
      dsimp only [bind, Except.bind] at h
      cases hnode : t.node? loc <;> rw [hnode] at h <;> cases h

theorem isDirectory_of_nameTooLong (h : t.locate p = .error .nameTooLong) :
    t.isDirectory p = .error ⟨.nameTooLong, p.text⟩ := by
  unfold isDirectory status
  rw [h]
  rfl

/-- What is known about a directory stays known, unless it is that there is none. -/
theorem Grows.isDirectory (h : t.Grows t') (hne : t.isDirectory p ≠ .ok false) :
    t'.isDirectory p = t.isDirectory p := by
  cases hthere : t.isDirectory p with
  | error e =>
      obtain ⟨hlong, rfl⟩ := isDirectory_eq_error hthere
      exact isDirectory_of_nameTooLong (h.locate_nameTooLong hlong)
  | ok there =>
      cases there with
      | false => exact absurd hthere hne
      | true =>
          obtain ⟨hl, hn⟩ := status_eq_ok_iff.1 (isDirectory_eq_true_iff.1 hthere)
          rw [isDirectory_eq_true_iff, status_eq_ok_iff, h.target p]
          exact ⟨h.locate hl, h.directory _ hn⟩

/-- What is known in the beginning and in the end is known in between. -/
theorem Grows.isDirectory_eq (h : t.Grows t') (h' : t'.Grows t'')
    (heq : t''.isDirectory p = t.isDirectory p) : t''.isDirectory p = t'.isDirectory p := by
  by_cases hmiddle : t'.isDirectory p = .ok false
  · by_cases hfirst : t.isDirectory p = .ok false
    · rw [heq, hfirst, hmiddle]
    · rw [heq, h.isDirectory hfirst]
  · exact h'.isDirectory hmiddle

/-! ### Names in a directory -/

theorem foldl_enter (hdots : ".." ∉ names) (loc : Location) :
    names.foldl enter loc = loc ++ names := by
  induction names generalizing loc with
  | nil => rw [List.foldl_nil, List.append_nil]
  | cons name rest ih =>
      have hname : name ≠ ".." := fun heq => hdots (heq ▸ List.mem_cons_self ..)
      rw [List.foldl_cons, enter, if_neg hname, ih fun hmem => hdots (List.mem_cons_of_mem _ hmem),
        List.append_assoc, List.singleton_append]

/-- Names that are looked up in a directory. -/
theorem target_join (t : FileTree) (d : Path) (hdots : ".." ∉ names) :
    t.target (d.join ⟨"", names⟩) = t.target d ++ names := by
  show (d.names ++ names).foldl enter (t.start d) = _
  rw [List.foldl_append, foldl_enter hdots]
  rfl

theorem Steady.join (h : t.Steady d) (hdots : ".." ∉ names) :
    t.Steady (d.join ⟨"", names⟩) := by
  intro before after heq
  change d.names ++ names = before ++ ".." :: after at heq
  -- The double dot is one of the directory's.
  rcases List.append_eq_append_iff.1 heq with ⟨more, rfl, hmore⟩ | ⟨more, hmore, hrest⟩
  · exact absurd (hmore ▸ List.mem_append_right _ (List.mem_cons_self ..)) hdots
  · cases more with
    | nil =>
        rw [List.nil_append] at hrest
        exact absurd (hrest ▸ List.mem_cons_self ..) hdots
    | cons name more =>
        obtain ⟨rfl, -⟩ := List.cons.inj hrest
        exact h before more hmore

/-- What lies behind a location lies in a directory. -/
theorem WellFormed.directory_of_append (h : t.WellFormed) (hne : names ≠ [])
    (hthere : (t.node? (loc ++ names)).isSome) : t.node? loc = some .directory := by
  induction names using List.reverseRecOn with
  | nil => exact absurd rfl hne
  | append_singleton names name ih =>
      rw [← List.append_assoc] at hthere
      have habove := h.above _ (by simp) hthere
      rw [List.dropLast_concat] at habove
      by_cases hnames : names = []
      · rwa [hnames, List.append_nil] at habove
      · exact ih hnames (by rw [habove]; rfl)

theorem read_eq_ok_iff {content : Content} :
    t.read p = .ok content ↔ t.status p = .ok (.file content) := by
  unfold read
  rcases t.status p with fault | _ | content' <;> simp

/-- What has been written is read. -/
theorem read_of_write {s : String} (h : t.write p s = .ok t') :
    t'.read p = .ok (.text s) := by
  obtain ⟨hlocated, hnode⟩ := locate_of_write h
  rw [← (grows_write h).target p] at hlocated hnode
  exact read_eq_ok_iff.2 (status_eq_ok_iff.2 ⟨hlocated, hnode⟩)

theorem isFile_iff : t.isFile p = true ↔ ∃ content, t.read p = .ok content := by
  unfold isFile read
  rcases t.status p with fault | _ | content <;> simp

/-! ### Adding files -/

/-- A tree grows: what is watched does not change, and all new files are of one kind. -/
structure Adds (watched fresh : Location → Prop) (t t' : FileTree) : Prop where
  grows : t.Grows t'
  same : ∀ loc content, watched loc → t.contentAt? loc = some content →
    t'.contentAt? loc = some content
  new : ∀ loc content, t'.contentAt? loc = some content → t.contentAt? loc = none → fresh loc

namespace Adds

variable {watched fresh : Location → Prop}

theorem refl (t : FileTree) : Adds watched fresh t t :=
  ⟨.refl t, fun _ _ _ h => h, fun _ _ h hnone => by rw [h] at hnone; cases hnone⟩

theorem trans (h : Adds watched fresh t t') (h' : Adds watched fresh t' t'') :
    Adds watched fresh t t'' := by
  refine ⟨h.grows.trans h'.grows, fun loc content hw hc => h'.same loc content hw
    (h.same loc content hw hc), fun loc content hc hnone => ?_⟩
  cases hmiddle : t'.contentAt? loc with
  | none => exact h'.new loc content hc hmiddle
  | some content' => exact h.new loc content' hmiddle hnone

/-- **What was found is found again**, if it is watched. -/
theorem read (h : Adds watched fresh t t') {content : Content} (hw : watched (t.target p))
    (hr : t.read p = .ok content) : t'.read p = .ok content := by
  obtain ⟨hl, hn⟩ := status_eq_ok_iff.1 (read_eq_ok_iff.1 hr)
  rw [read_eq_ok_iff, status_eq_ok_iff, h.grows.target p]
  refine ⟨h.grows.locate hl, ?_⟩
  exact contentAt?_eq_some_iff.1 (h.same _ content hw (contentAt?_eq_some_iff.2 hn))

/-- A file that is found later was there before or is new. -/
theorem contentAt?_of_isFile (h : Adds watched fresh t t') (hfresh : ¬ fresh (t.target p))
    (hfile : t'.isFile p = true) : (t.contentAt? (t.target p)).isSome ∧
      t'.locate p = .ok (t.target p) := by
  obtain ⟨content, hr⟩ := isFile_iff.1 hfile
  obtain ⟨hl, hn⟩ := status_eq_ok_iff.1 (read_eq_ok_iff.1 hr)
  rw [h.grows.target p] at hl hn
  refine ⟨?_, hl⟩
  by_contra hnone
  rw [Option.not_isSome_iff_eq_none] at hnone
  exact hfresh (h.new _ content (contentAt?_eq_some_iff.2 hn) hnone)

/-- **What was not found is not found later**, if new files go by other names. -/
theorem isFile_eq_false (h : Adds watched fresh t t') (hwf : t.WellFormed) (hsteady : t.Steady p)
    (hfresh : ¬ fresh (t.target p)) (hno : t.isFile p = false) : t'.isFile p = false := by
  rw [← Bool.not_eq_true]
  intro hfile
  obtain ⟨hthere, hl⟩ := h.contentAt?_of_isFile hfresh hfile
  obtain ⟨content, hc⟩ := Option.isSome_iff_exists.1 hthere
  have hn := contentAt?_eq_some_iff.1 hc
  have hr : t.read p = .ok content :=
    read_eq_ok_iff.2 (status_eq_ok_iff.2 ⟨locate_of_steady hwf hsteady (by rw [hn]; rfl) hl, hn⟩)
  rw [isFile_iff.2 ⟨content, hr⟩] at hno
  cases hno

/-- So it is in a directory that was not there itself. -/
theorem isFile_eq_false_of_new (h : Adds watched fresh t t') (hwf : t.WellFormed)
    (hsteady : t.Steady d) (hdots : ".." ∉ names) (hne : names ≠ [])
    (hfresh : ¬ fresh (t.target d ++ names)) (hno : t.isDirectory d = .ok false)
    (hnow : t'.isDirectory d = .ok true) : t'.isFile (d.join ⟨"", names⟩) = false := by
  rw [← Bool.not_eq_true]
  intro hfile
  rw [← target_join t d hdots] at hfresh
  obtain ⟨hthere, -⟩ := h.contentAt?_of_isFile hfresh hfile
  obtain ⟨content, hc⟩ := Option.isSome_iff_exists.1 hthere
  rw [target_join t d hdots, contentAt?_eq_some_iff] at hc
  -- What was there lay in the directory, which could have been followed.
  have hd := hwf.directory_of_append hne (by rw [hc]; rfl)
  obtain ⟨hl, -⟩ := status_eq_ok_iff.1 (isDirectory_eq_true_iff.1 hnow)
  have hl' := locate_of_steady hwf hsteady (by rw [hd]; rfl) hl
  rw [isDirectory_eq_true_iff.2 (status_eq_ok_iff.2 ⟨hl', hd⟩)] at hno
  cases hno

end Adds

end DartScaffold.FileTree
