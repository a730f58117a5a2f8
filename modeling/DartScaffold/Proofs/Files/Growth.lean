/-
**How a tree grows.**

A run only ever adds to the tree of files: it makes directories that are missing, and it writes
files.  Since a path is followed through directories, whatever could be reached before can still be
reached, at the same location.  Where a path leads to, if it leads anywhere, is told by its names
alone.  But whether it can be followed depends on the directories on the way: behind a directory
that is missing a double dot leads nowhere, and as soon as the directory is made it leads back to
what has been there all the time.

Main definitions:

* `FileTree.target` — the location that a path leads to;
* `FileTree.contentAt?` — what the file at a location holds;
* `FileTree.Grows`, `FileTree.Keeps` — nothing goes away, and nothing changes besides;
* `FileTree.WellFormed` — everything lies in a directory;
* `FileTree.Steady` — the double dots of a path leave directories that are there.

Main results:

* `FileTree.locate_eq` — a path that can be followed leads to its target;
* `FileTree.Grows.locate`, `FileTree.Grows.pathExists` — what can be reached stays so;
* `FileTree.keeps_makeDirectories`, `FileTree.contentAt?_makeDirectories` — making directories
  changes no file;
* `FileTree.contentAt?_write` — **writing changes exactly the file at the path**;
* `FileTree.locate_of_steady` — a steady path can be followed to whatever is at its target.
-/

import Mathlib
import DartScaffold.FileTree

set_option relaxedAutoImplicit false
set_option autoImplicit false

namespace DartScaffold.FileTree

variable {t t' t'' : FileTree} {p : Path} {loc other : Location}

/-! ### Nodes -/

/-- What the file at a location holds, if there is one. -/
def contentAt? (t : FileTree) (loc : Location) : Option Content :=
  match t.node? loc with
  | some (.file content) => some content
  | _ => none

theorem contentAt?_eq_none (h : t.node? loc = none) : t.contentAt? loc = none := by
  rw [contentAt?, h]

theorem contentAt?_eq_some_iff {content : Content} :
    t.contentAt? loc = some content ↔ t.node? loc = some (.file content) := by
  unfold contentAt?
  rcases t.node? loc with _ | _ | _ <;> simp

@[simp] theorem node?_nil (t : FileTree) : t.node? [] = some .directory := if_pos rfl

theorem node?_setNode_self (t : FileTree) {loc : Location} (h : loc ≠ []) (node : Node) :
    (t.setNode loc node).node? loc = some node := by
  simp [node?, setNode, h]

theorem node?_setNode_of_ne (t : FileTree) {loc other : Location} (h : other ≠ loc)
    (node : Node) : (t.setNode loc node).node? other = t.node? other := by
  simp only [node?, setNode, Entries.lookup_put_of_ne h]

/-! ### Where a path leads to -/

/-- One name on the way: a double dot leaves the directory. -/
def enter (loc : Location) (name : String) : Location :=
  if name = ".." then loc.dropLast else loc ++ [name]

/-- The location that a path begins at. -/
def start (t : FileTree) (p : Path) : Location := if p.root = "" then t.here else []

/-- The location that a path leads to, if it can be followed. -/
def target (t : FileTree) (p : Path) : Location := p.names.foldl enter (t.start p)

theorem follow_eq {names : List String} {loc₀ : Location} (h : t.follow loc₀ names = .ok loc) :
    loc = names.foldl enter loc₀ := by
  induction names generalizing loc₀ with
  | nil => exact (Except.ok.inj h).symm
  | cons name rest ih =>
      unfold follow at h
      split at h
      · cases h
      · cases h
      · split at h
        · cases h
        · exact ih h

/-- A path that can be followed leads to its target. -/
theorem locate_eq (h : t.locate p = .ok loc) : loc = t.target p := by
  unfold locate at h
  split at h
  · cases h
  · split at h
    · cases h
    · exact follow_eq h

/-- There is something at a path exactly if it can be followed and there is something at its
target. -/
theorem status_eq_ok_iff {node : Node} : t.status p = .ok node ↔
    t.locate p = .ok (t.target p) ∧ t.node? (t.target p) = some node := by
  unfold status
  cases hloc : t.locate p with
  | error fault =>
      constructor
      · intro h
        cases h
      · rintro ⟨h, -⟩
        cases h
  | ok loc =>
      obtain rfl := locate_eq hloc
      dsimp only [bind, Except.bind]
      cases t.node? (t.target p) <;> simp

theorem pathExists_eq_true_iff : t.pathExists p = .ok true ↔ ∃ node, t.status p = .ok node := by
  unfold pathExists
  cases t.status p with
  | ok node => simp
  | error fault => cases fault <;> simp

/-! ### Growth -/

/-- Nothing goes away: directories stay directories, and files stay files. -/
structure Grows (t t' : FileTree) : Prop where
  here : t'.here = t.here
  directory : ∀ loc, t.node? loc = some .directory → t'.node? loc = some .directory
  file : ∀ loc content, t.node? loc = some (.file content) →
    ∃ content', t'.node? loc = some (.file content')

namespace Grows

theorem refl (t : FileTree) : t.Grows t := ⟨rfl, fun _ h => h, fun _ content h => ⟨content, h⟩⟩

theorem trans (h : t.Grows t') (h' : t'.Grows t'') : t.Grows t'' := by
  refine ⟨h'.here.trans h.here, fun loc hd => h'.directory loc (h.directory loc hd), ?_⟩
  intro loc content hf
  obtain ⟨content', hf'⟩ := h.file loc content hf
  exact h'.file loc content' hf'

theorem start (h : t.Grows t') (p : Path) : t'.start p = t.start p := by
  rw [FileTree.start, FileTree.start, h.here]

theorem target (h : t.Grows t') (p : Path) : t'.target p = t.target p := by
  rw [FileTree.target, FileTree.target, h.start]

theorem follow (h : t.Grows t') {names : List String} {loc₀ : Location}
    (hf : t.follow loc₀ names = .ok loc) : t'.follow loc₀ names = .ok loc := by
  induction names generalizing loc₀ with
  | nil => exact hf
  | cons name rest ih =>
      unfold FileTree.follow at hf ⊢
      split at hf
      · cases hf
      · cases hf
      · rename_i hd
        rw [h.directory loc₀ hd]
        split at hf
        · cases hf
        · rename_i hshort
          exact (if_neg hshort).trans (ih hf)

/-- A path that could be followed leads to the same location. -/
theorem locate (h : t.Grows t') (hl : t.locate p = .ok loc) : t'.locate p = .ok loc := by
  unfold FileTree.locate at hl ⊢
  rw [h.here]
  split at hl
  · cases hl
  · rename_i hnull
    split at hl
    · cases hl
    · rename_i hlong
      rw [if_neg hnull, if_neg hlong]
      exact h.follow hl

/-- What was at a path is still there. -/
theorem pathExists (h : t.Grows t') (he : t.pathExists p = .ok true) :
    t'.pathExists p = .ok true := by
  obtain ⟨node, hnode⟩ := pathExists_eq_true_iff.1 he
  obtain ⟨hl, hn⟩ := status_eq_ok_iff.1 hnode
  have hl' := h.locate hl
  rw [← h.target p] at hl'
  rw [pathExists_eq_true_iff]
  cases node with
  | directory =>
      refine ⟨.directory, status_eq_ok_iff.2 ⟨hl', ?_⟩⟩
      rw [h.target p]
      exact h.directory _ hn
  | file content =>
      obtain ⟨content', hn'⟩ := h.file _ content hn
      refine ⟨.file content', status_eq_ok_iff.2 ⟨hl', ?_⟩⟩
      rw [h.target p]
      exact hn'

end Grows

/-- Nothing goes away, and nothing changes. -/
structure Keeps (t t' : FileTree) : Prop where
  here : t'.here = t.here
  node : ∀ loc node, t.node? loc = some node → t'.node? loc = some node

namespace Keeps

theorem refl (t : FileTree) : t.Keeps t := ⟨rfl, fun _ _ h => h⟩

theorem trans (h : t.Keeps t') (h' : t'.Keeps t'') : t.Keeps t'' :=
  ⟨h'.here.trans h.here, fun loc node hn => h'.node loc node (h.node loc node hn)⟩

theorem grows (h : t.Keeps t') : t.Grows t' :=
  ⟨h.here, fun loc hd => h.node loc _ hd, fun loc content hf => ⟨content, h.node loc _ hf⟩⟩

end Keeps

/-- Something new is put at a location where nothing was. -/
theorem keeps_setNode (hloc : t.node? loc = none) (node : Node) :
    t.Keeps (t.setNode loc node) := by
  refine ⟨rfl, fun other node' h => ?_⟩
  have hne : other ≠ loc := by
    rintro rfl
    rw [hloc] at h
    cases h
  rw [node?_setNode_of_ne t hne, h]

/-! ### Trees in which everything lies in a directory -/

/-- Everything lies in a directory. -/
structure WellFormed (t : FileTree) : Prop where
  above : ∀ loc, loc ≠ [] → (t.node? loc).isSome → t.node? loc.dropLast = some .directory

/-- It is enough to look at what is listed. -/
theorem wellFormed_of_nodes
    (h : ∀ e ∈ t.nodes, e.1 ≠ [] → t.node? e.1.dropLast = some .directory) : t.WellFormed := by
  refine ⟨fun loc hne hsome => ?_⟩
  obtain ⟨node, hnode⟩ := Option.isSome_iff_exists.1 hsome
  rw [node?, if_neg hne] at hnode
  exact h (loc, node) (Entries.mem_of_lookup hnode) hne

/-- Something is put where it is no directory that is lost, into a directory that is there. -/
theorem WellFormed.setNode (h : t.WellFormed) (hloc : t.node? loc ≠ some .directory)
    (hd : t.node? loc.dropLast = some .directory) (node : Node) :
    (t.setNode loc node).WellFormed := by
  refine ⟨fun other hne hsome => ?_⟩
  -- What is above another location is no file, so it is not the one where something is put.
  have habove : t.node? other.dropLast = some .directory := by
    by_cases heq : other = loc
    · rw [heq]
      exact hd
    · rw [node?_setNode_of_ne t heq] at hsome
      exact h.above other hne hsome
  have hneq : other.dropLast ≠ loc := by
    rintro rfl
    exact hloc habove
  rw [node?_setNode_of_ne t hneq]
  exact habove

/-! ### Making directories -/

theorem makeDirectory_eq_ok (h : t.makeDirectory p = .ok t') :
    t' = t.setNode (t.target p) .directory ∧ t.node? (t.target p) = none ∧
      t.node? (t.target p).dropLast = some .directory := by
  unfold makeDirectory at h
  cases hloc : t.locate p with
  | error fault =>
      rw [hloc] at h
      cases h
  | ok loc =>
      obtain rfl := locate_eq hloc
      rw [hloc] at h
      dsimp only [bind, Except.bind] at h
      split at h
      · cases h
      · rename_i hnone
        split at h
        · rename_i hd
          exact ⟨(Except.ok.inj h).symm, hnone, hd⟩
        · cases h
        · cases h

/-- What making one directory keeps, making those on the way to one keeps. -/
theorem makeDirectories_induction {P : FileTree → Prop}
    (hstep : ∀ t p t', t.makeDirectory p = .ok t' → P t → P t') (h : P t) (p : Path) :
    P (t.makeDirectories p).1 := by
  have hensure : ∀ t p, P t → P (ensureDirectory t p).1 := by
    intro t p h
    unfold ensureDirectory
    split
    · exact hstep _ _ _ ‹_› h
    · exact h
  have hupTo : ∀ bound t p, P t → P (makeDirectoriesUpTo bound t p).1 := by
    intro bound
    induction bound with
    | zero => exact hensure
    | succ bound ih =>
        intro t p h
        have habove := ih t p.parent h
        unfold makeDirectoriesUpTo
        split
        · split
          · rename_i made heq
            rw [heq] at habove
            exact hensure _ _ habove
          · exact habove
        · exact hensure _ _ h
  exact hupTo _ t p h

/-- Making directories changes nothing that is there. -/
theorem keeps_makeDirectories (t : FileTree) (p : Path) : t.Keeps (t.makeDirectories p).1 := by
  refine makeDirectories_induction (P := fun made => t.Keeps made) ?_ (.refl t) p
  intro made q made' h hmade
  obtain ⟨rfl, hnone, -⟩ := makeDirectory_eq_ok h
  exact hmade.trans (keeps_setNode hnone _)

/-- Making directories makes no file, and changes none. -/
theorem contentAt?_makeDirectories (t : FileTree) (p : Path) :
    (t.makeDirectories p).1.contentAt? = t.contentAt? := by
  refine makeDirectories_induction (P := fun made => made.contentAt? = t.contentAt?) ?_ rfl p
  intro made q made' h hmade
  obtain ⟨rfl, hnone, -⟩ := makeDirectory_eq_ok h
  rw [← hmade]
  funext loc
  unfold contentAt?
  by_cases hloc : loc = made.target q
  · have hne : loc ≠ [] := by
      rintro rfl
      rw [← hloc] at hnone
      cases hnone
    rw [hloc, node?_setNode_self made (hloc ▸ hne), hnone]
  · rw [node?_setNode_of_ne made hloc]

theorem WellFormed.makeDirectories (h : t.WellFormed) (p : Path) :
    (t.makeDirectories p).1.WellFormed := by
  refine makeDirectories_induction (P := WellFormed) ?_ h p
  intro made q made' hmake hmade
  obtain ⟨rfl, hnone, hd⟩ := makeDirectory_eq_ok hmake
  exact hmade.setNode (by simp [hnone]) hd _

/-! ### Writing -/

theorem write_eq_ok {s : String} (h : t.write p s = .ok t') :
    t' = t.setNode (t.target p) (.file (.text s)) ∧ t.locate p = .ok (t.target p) ∧
      t.node? (t.target p) ≠ some .directory ∧
      (t.node? (t.target p) = none → t.node? (t.target p).dropLast = some .directory) := by
  unfold write at h
  split at h
  · rename_i loc hw
    unfold writable at hw
    cases hloc : t.locate p with
    | error fault =>
        rw [hloc] at hw
        cases hw
    | ok loc' =>
        obtain rfl := locate_eq hloc
        rw [hloc] at hw
        dsimp only [bind, Except.bind] at hw
        split at hw
        · cases hw
        · rename_i hnode
          rw [← Except.ok.inj hw] at h
          exact ⟨(Except.ok.inj h).symm, rfl, by simp [hnode], by simp [hnode]⟩
        · rename_i hd hnode
          rw [← Except.ok.inj hw] at h
          exact ⟨(Except.ok.inj h).symm, rfl, by simp [hnode], fun _ => hd⟩
        · cases hw
        · cases hw
  · cases h

theorem target_ne_nil_of_write {s : String} (h : t.write p s = .ok t') : t.target p ≠ [] := by
  intro hnil
  have hdirectory := (write_eq_ok h).2.2.1
  rw [hnil] at hdirectory
  exact hdirectory (node?_nil t)

/-- **Writing changes exactly the file at the path.** -/
theorem contentAt?_write {s : String} (h : t.write p s = .ok t') :
    t'.contentAt? = Function.update t.contentAt? (t.target p) (some (.text s)) := by
  have hne := target_ne_nil_of_write h
  obtain ⟨rfl, -, -, -⟩ := write_eq_ok h
  funext loc
  by_cases hloc : loc = t.target p
  · rw [hloc, Function.update_self, contentAt?_eq_some_iff, node?_setNode_self t hne]
  · rw [Function.update_of_ne hloc, contentAt?, contentAt?, node?_setNode_of_ne t hloc]

theorem grows_write {s : String} (h : t.write p s = .ok t') : t.Grows t' := by
  have hne := target_ne_nil_of_write h
  obtain ⟨rfl, -, hdirectory, -⟩ := write_eq_ok h
  refine ⟨rfl, fun loc hd => ?_, fun loc content hf => ?_⟩
  · have hloc : loc ≠ t.target p := by
      rintro rfl
      exact hdirectory hd
    rw [node?_setNode_of_ne t hloc, hd]
  · by_cases hloc : loc = t.target p
    · exact ⟨.text s, by rw [hloc, node?_setNode_self t hne]⟩
    · exact ⟨content, (node?_setNode_of_ne t hloc _).trans hf⟩

theorem WellFormed.write {s : String} (hwf : t.WellFormed) (h : t.write p s = .ok t') :
    t'.WellFormed := by
  have hne := target_ne_nil_of_write h
  obtain ⟨rfl, -, hdirectory, hnew⟩ := write_eq_ok h
  refine hwf.setNode hdirectory ?_ _
  cases hnode : t.node? (t.target p) with
  | none => exact hnew hnode
  | some node => exact hwf.above _ hne (by simp [hnode])

/-- What has been written is there. -/
theorem locate_of_write {s : String} (h : t.write p s = .ok t') :
    t'.locate p = .ok (t.target p) ∧ t'.node? (t.target p) = some (.file (.text s)) := by
  have hne := target_ne_nil_of_write h
  refine ⟨(grows_write h).locate (write_eq_ok h).2.1, ?_⟩
  rw [(write_eq_ok h).1]
  exact node?_setNode_self t hne _

/-- What has been written can be written again. -/
theorem writable_of_write {s : String} (h : t.write p s = .ok t') :
    t'.writable p = .ok (t.target p) := by
  obtain ⟨hlocated, hnode⟩ := locate_of_write h
  unfold writable
  rw [hlocated]
  dsimp only [bind, Except.bind]
  rw [hnode]

theorem pathExists_of_write {s : String} (h : t.write p s = .ok t') :
    t'.pathExists p = .ok true := by
  obtain ⟨hl, hn⟩ := locate_of_write h
  rw [← (grows_write h).target p] at hl hn
  exact pathExists_eq_true_iff.2 ⟨_, status_eq_ok_iff.2 ⟨hl, hn⟩⟩

/-! ### Steady paths -/

/-- Each double dot of a path leaves a directory that is there. -/
def Steady (t : FileTree) (p : Path) : Prop :=
  ∀ before after, p.names = before ++ ".." :: after →
    t.node? (before.foldl enter (t.start p)) = some .directory

theorem Steady.grows (h : t.Steady p) (hg : t.Grows t') : t'.Steady p := by
  intro before after heq
  rw [hg.start p]
  exact hg.directory _ (h before after heq)

/-- A path without double dots is steady. -/
theorem steady_of_not_mem (h : ".." ∉ p.names) : t.Steady p := by
  intro before after heq
  rw [heq] at h
  exact absurd (List.mem_append_right _ (List.mem_cons_self ..)) h

/-- On the way to something that is there all directories are there, except where a double dot
leaves one.  So following the names fails at a name that is too long, if at all. -/
theorem follow_of_isSome (hwf : t.WellFormed) {names : List String} {loc₀ : Location}
    (hsteady : ∀ before after, names = before ++ ".." :: after →
      t.node? (before.foldl enter loc₀) = some .directory)
    (hthere : (t.node? (names.foldl enter loc₀)).isSome) :
    (names ≠ [] → t.node? loc₀ = some .directory) ∧
      (t.follow loc₀ names = .ok (names.foldl enter loc₀) ∨
        ∃ name ∈ names, 255 < name.utf8ByteSize) := by
  -- The induction is on the names behind the location; what is there behind the first name
  -- tells that the location itself is a directory.
  induction names generalizing loc₀ with
  | nil => exact ⟨fun h => absurd rfl h, .inl rfl⟩
  | cons name rest ih =>
      have hrest := @ih (enter loc₀ name)
        (fun before after heq => hsteady (name :: before) after (by rw [heq]; rfl)) hthere
      have hnext : (t.node? (enter loc₀ name)).isSome := by
        cases rest with
        | nil => exact hthere
        | cons => exact Option.isSome_iff_exists.2 ⟨_, hrest.1 (List.cons_ne_nil _ _)⟩
      have hdirectory : t.node? loc₀ = some .directory := by
        by_cases hdots : name = ".."
        · exact hsteady [] rest (by rw [hdots]; rfl)
        · have habove := hwf.above (enter loc₀ name) (by simp [enter, hdots]) hnext
          rwa [enter, if_neg hdots, List.dropLast_concat] at habove
      refine ⟨fun _ => hdirectory, ?_⟩
      by_cases hlong : 255 < name.utf8ByteSize
      · exact .inr ⟨name, List.mem_cons_self .., hlong⟩
      · rcases hrest.2 with hok | ⟨n, hn, hlong'⟩
        · refine .inl ?_
          unfold follow
          rw [hdirectory]
          exact (if_neg hlong).trans hok
        · exact .inr ⟨n, List.mem_cons_of_mem _ hn, hlong'⟩

theorem not_long_of_follow {names : List String} {loc₀ : Location}
    (h : t.follow loc₀ names = .ok loc) : ∀ name ∈ names, ¬ 255 < name.utf8ByteSize := by
  induction names generalizing loc₀ with
  | nil => simp
  | cons name rest ih =>
      unfold follow at h
      split at h
      · cases h
      · cases h
      · split at h
        · cases h
        · rename_i hshort
          intro n hn
          rcases List.mem_cons.1 hn with rfl | hn
          · exact hshort
          · exact ih h n hn

/-- **A steady path can be followed to what is at its target**, if it can be followed in any tree
at all. -/
theorem locate_of_steady (hwf : t.WellFormed) (hsteady : t.Steady p)
    (hthere : (t.node? (t.target p)).isSome) (hl : t'.locate p = .ok loc) :
    t.locate p = .ok (t.target p) := by
  unfold locate at hl ⊢
  split at hl
  · cases hl
  · rename_i hnull
    split at hl
    · cases hl
    · rename_i hpathLong
      rw [if_neg hnull, if_neg hpathLong]
      have hshort := not_long_of_follow hl
      rcases (follow_of_isSome hwf hsteady hthere).2 with hok | ⟨n, hn, hlong⟩
      · exact hok
      · exact absurd hlong (hshort n hn)

end DartScaffold.FileTree
