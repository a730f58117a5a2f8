/-
**Written paths.**

A planned file is known by the text of its path, and files refer to each other by such texts.  What
reading gives is written as a text that is read as the same path again, so different paths have
different texts.  A path that refers to a file is followed from a directory name by name, where a
double dot leaves a directory.  Collapsing a path leaves out each name that a double dot behind it
leaves again; following a path and collapsing the joined paths come to the same.

Main definitions:

* `Path.IsName`, `Path.IsRead` — a name on the way, and a path that reading gives;
* `Path.follow` — the path that is come to from a directory;
* `Path.collapse` — the path without what is left again.

Main results:

* `Path.ofString_text` — **what reading gives is read again**;
* `Path.text_inj` — different paths have different texts;
* `Path.follow_sibling`, `Path.follow_cousin` — a file of the same directory, and one of another
  directory beside it;
* `Path.collapse_follow_sibling`, `Path.collapse_follow_cousin` — the same for collapsed paths.
-/

import Mathlib
import DartScaffold.Naming.Words
import DartScaffold.Path

set_option relaxedAutoImplicit false
set_option autoImplicit false

namespace DartScaffold.Path

/-! ### What reading gives -/

/-- A name on the way. -/
def IsName (s : String) : Prop := s ≠ "" ∧ s ≠ "." ∧ '/' ∉ s.toList

instance (s : String) : Decidable (IsName s) :=
  inferInstanceAs (Decidable (s ≠ "" ∧ s ≠ "." ∧ '/' ∉ s.toList))

/-- A path that reading gives. -/
structure IsRead (p : Path) : Prop where
  root : p.root ∈ ["", "/", "//"]
  names : ∀ n ∈ p.names, IsName n

theorem isRead_ofString (s : String) : (ofString s).IsRead where
  root := by
    show rootOf _ ∈ _
    unfold rootOf
    split_ifs <;> decide
  names := by
    intro n hn
    obtain ⟨hsplit, hkept⟩ := List.mem_filter.1 hn
    obtain ⟨piece, hpiece, rfl⟩ := List.mem_map.1 hsplit
    rw [Bool.and_eq_true, bne_iff_ne, bne_iff_ne] at hkept
    refine ⟨hkept.1, hkept.2, ?_⟩
    rw [String.toList_ofList]
    intro hslash
    rw [List.splitOn_eq_splitOnP] at hpiece
    exact absurd (Naming.not_of_mem_splitOnP hpiece '/' hslash) (by decide)

theorem IsRead.join {p q : Path} (hp : p.IsRead) (hq : q.IsRead) : (p.join q).IsRead := by
  unfold Path.join
  by_cases hroot : q.root = ""
  · rw [if_pos hroot]
    refine ⟨hp.root, fun n hn => ?_⟩
    rcases List.mem_append.1 hn with hn | hn
    · exact hp.names n hn
    · exact hq.names n hn
  · rw [if_neg hroot]
    exact hq

/-! ### Reading what is written -/

/-- Joined names are the pieces of the text, if there are any. -/
theorem split_join {names : List String} (hne : names ≠ []) (h : ∀ n ∈ names, IsName n) :
    Text.split '/' (Text.join "/" names) = names := by
  have hslash : ∀ l ∈ names.map String.toList, '/' ∉ l := by
    intro l hl
    obtain ⟨n, hn, rfl⟩ := List.mem_map.1 hl
    exact (h n hn).2.2
  rw [Text.split, Text.toList_join]
  show (([('/' : Char)].intercalate (names.map String.toList)).splitOn '/').map _ = _
  rw [List.splitOn_intercalate '/' hslash (by simpa using hne), List.map_map]
  refine (List.map_congr_left fun n _ => ?_).trans (List.map_id names)
  exact String.ofList_toList

/-- The names of a text in which names are joined. -/
theorem filter_split_join {names : List String} (h : ∀ n ∈ names, IsName n) :
    ((Text.split '/' (Text.join "/" names)).filter fun n => n != "" && n != ".") = names := by
  by_cases hne : names = []
  · subst hne
    rfl
  rw [split_join hne h, List.filter_eq_self]
  intro n hn
  rw [Bool.and_eq_true, bne_iff_ne, bne_iff_ne]
  exact ⟨(h n hn).1, (h n hn).2.1⟩

/-- Joined names do not begin with a slash. -/
theorem takeWhile_join {names : List String} (h : ∀ n ∈ names, IsName n) :
    (Text.join "/" names).toList.takeWhile (· == '/') = [] := by
  cases names with
  | nil => rfl
  | cons n rest =>
      obtain ⟨hne, -, hslash⟩ := h n (List.mem_cons_self ..)
      cases hn : n.toList with
      | nil => exact absurd (String.toList_eq_nil_iff.1 hn) hne
      | cons c cs =>
          have hc : (c == '/') = false := by
            rw [beq_eq_false_iff_ne]
            rintro rfl
            exact hslash (hn ▸ List.mem_cons_self ..)
          obtain ⟨more, hmore⟩ : ∃ more, (Text.join "/" (n :: rest)).toList = c :: more := by
            rw [Text.toList_join, List.map_cons, hn]
            cases rest with
            | nil => exact ⟨_, List.intercalate_singleton⟩
            | cons m rest => exact ⟨_, List.intercalate_cons_cons⟩
          rw [hmore, List.takeWhile_cons, hc]
          rfl

/-- Slashes at the beginning of a text are the root of the path. -/
theorem ofString_slashes (k : Nat) {names : List String} (h : ∀ n ∈ names, IsName n) {s : String}
    (hs : s.toList = List.replicate k '/' ++ (Text.join "/" names).toList) :
    ofString s = ⟨rootOf k, names⟩ := by
  have hroot : (s.toList.takeWhile (· == '/')).length = k := by
    rw [hs, List.takeWhile_append_of_pos fun c hc => by simp [List.eq_of_mem_replicate hc],
      takeWhile_join h, List.append_nil, List.length_replicate]
  -- Each slash at the beginning cuts off an empty piece, which is left out.
  have hnames : ∀ k, (((List.replicate k '/' ++ (Text.join "/" names).toList).splitOn '/').map
      String.ofList).filter (fun n => n != "" && n != ".") = names := by
    intro k
    induction k with
    | zero => exact filter_split_join h
    | succ k ih =>
        rw [List.replicate_succ, List.cons_append, ← List.nil_append ('/' :: _),
          List.splitOn_append_cons_self, List.map_append, List.filter_append, ih]
        rfl
  unfold ofString
  rw [hroot, Text.split, hs, hnames]

/-- Joined names are read as a relative path. -/
theorem ofString_join {names : List String} (h : ∀ n ∈ names, IsName n) :
    ofString (Text.join "/" names) = ⟨"", names⟩ :=
  ofString_slashes 0 h (List.nil_append _).symm

/-- A name alone is read as a path. -/
theorem ofString_name {n : String} (h : IsName n) : ofString n = ⟨"", [n]⟩ := by
  have hjoin : ofString (Text.join "/" [n]) = ⟨"", [n]⟩ := ofString_join (by simpa using h)
  rwa [Text.join, String.intercalate_singleton] at hjoin

/-- **What reading gives is read again.** -/
theorem ofString_text {p : Path} (h : p.IsRead) : ofString p.text = p := by
  obtain ⟨root, names⟩ := p
  obtain ⟨hroot, hnames⟩ := h
  unfold text
  by_cases hempty : root = "" ∧ names = []
  · rw [if_pos hempty, hempty.1, hempty.2]
    rfl
  rw [if_neg hempty]
  simp only [List.mem_cons, List.not_mem_nil, or_false] at hroot
  rcases hroot with rfl | rfl | rfl
  · exact ofString_slashes 0 hnames (by simp)
  · exact ofString_slashes 1 hnames (by simp)
  · exact ofString_slashes 2 hnames (by simp)

/-- Different paths have different texts. -/
theorem text_inj {p q : Path} (hp : p.IsRead) (hq : q.IsRead) : p.text = q.text ↔ p = q := by
  constructor
  · intro h
    rw [← ofString_text hp, h, ofString_text hq]
  · rintro rfl
    rfl

/-! ### Following a path -/

/-- One name on the way from a directory. -/
def enter (d : Path) (name : String) : Path :=
  if name = ".." then d.parent else ⟨d.root, d.names ++ [name]⟩

/-- The path that is come to from a directory: a double dot leaves the directory. -/
def follow (d p : Path) : Path := if p.root = "" then p.names.foldl enter d else p

/-- The names without the last one and the double dot that leaves it again; behind the root a
double dot leaves nothing. -/
def collapseName (root : String) (done : List String) (name : String) : List String :=
  if name = ".." then
    match done.getLast? with
    | none => if root = "" then [".."] else []
    | some last => if last = ".." then done ++ [".."] else done.dropLast
  else done ++ [name]

/-- The path without what is left again. -/
def collapse (p : Path) : Path := ⟨p.root, p.names.foldl (collapseName p.root) []⟩

/-- Behind any names, entering a directory and leaving it again comes to nothing. -/
theorem collapseName_leave (root : String) (done : List String) {n : String} (hn : n ≠ "..") :
    collapseName root (collapseName root done n) ".." = done := by
  simp [collapseName, hn]

/-- A file of the same directory. -/
theorem follow_sibling (d : Path) {file : String} (hfile : file ≠ "..") :
    d.follow ⟨"", [file]⟩ = ⟨d.root, d.names ++ [file]⟩ := by
  simp [follow, enter, hfile]

/-- A file of another directory beside the own one. -/
theorem follow_cousin (root : String) (names : List String) {own folder file : String}
    (hfolder : folder ≠ "..") (hfile : file ≠ "..") :
    follow ⟨root, names ++ [own]⟩ ⟨"", ["..", folder, file]⟩ = ⟨root, names ++ [folder, file]⟩ := by
  simp [follow, enter, parent, hfolder, hfile]

/-- Following a path to a file of the same directory is joining the paths. -/
theorem collapse_follow_sibling (d : Path) {file : String} (hfile : file ≠ "..") :
    (d.join ⟨"", [file]⟩).collapse = (d.follow ⟨"", [file]⟩).collapse := by
  rw [follow_sibling d hfile, Path.join, if_pos rfl]

/-- A directory that is left again can be left out. -/
theorem collapse_follow_cousin (root : String) (names : List String) {own folder file : String}
    (hown : own ≠ "..") (hfolder : folder ≠ "..") (hfile : file ≠ "..") :
    (join ⟨root, names ++ [own]⟩ ⟨"", ["..", folder, file]⟩).collapse =
      (follow ⟨root, names ++ [own]⟩ ⟨"", ["..", folder, file]⟩).collapse := by
  rw [follow_cousin root names hfolder hfile, Path.join, if_pos rfl]
  unfold collapse
  simp only [List.append_assoc, List.foldl_append, List.foldl_cons, List.foldl_nil,
    collapseName_leave root _ hown, List.singleton_append]

end DartScaffold.Path
