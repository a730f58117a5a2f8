/-
**What a command prints is in order.**

A command prints texts of its own, with names, paths and reasons in them.  In its own texts every
tag closes the one before it.  What is put between them may be anything; only if a slash follows a
bracket in it can it close what is not open.  So a console that shows what is in order shows
everything, as long as nothing of that kind is put in.

Main definitions:

* `Command.Task.mentioned` — what a task speaks of before it generates anything;
* `Command.IsLegible` — a result of which nothing that is printed closes anything.

Main results:

* `Command.isInOrder_announcement`, `Command.isInOrder_planPanel` — what is printed before a run;
* `Command.isInOrder_progressLines`, `Command.isInOrder_summaryLines` — what is printed during a run
  and after it.
-/

import Mathlib
import DartScaffold.Command.Execution
import DartScaffold.Proofs.Naming.Joined
import DartScaffold.Proofs.Text.Markup

set_option relaxedAutoImplicit false
set_option autoImplicit false

namespace DartScaffold.Command

open Pipeline (Group Status FileResult Summary)
open Text.Markup (Fits IsStyle ClosesNone IsInOrder isPlain)

/-! ### What is printed of others -/

/-- What a task speaks of before it generates anything: the model, or the models that are asked for
or chosen and the directory for their files. -/
def Task.mentioned (p : Pipeline) (chosen : List String) : Task → List String
  | .model name | .service name _ | .feature name _ => [name]
  | .everything models _ _ =>
    p.settings.output.basePath.display :: (models.nonempty?.map wantedNames).getD [] ++ chosen
  | .list => []

/-- Nothing that is printed about a result closes anything. -/
def IsLegible (r : FileResult) : Prop :=
  ClosesNone r.path ∧ ClosesNone r.reason ∧ ClosesNone (progressOf r)

instance : DecidablePred IsLegible := fun _ => inferInstanceAs (Decidable (_ ∧ _))

/-! ### Styles -/

/-- The styles of what is printed. -/
theorem isStyle (style : String)
    (h : style ∈ ["bold", "yellow", "green", "red", "progress.description"]) :
    IsStyle style.toList := by
  have hall : ∀ style ∈ ["bold", "yellow", "green", "red", "progress.description"],
      IsStyle style.toList := by decide +kernel
  exact hall style h

theorem toList_bold (s : String) : (bold s).toList =
    '[' :: ("bold".toList ++ ']' :: (s.toList ++ '[' :: '/' :: ("bold".toList ++ [']']))) := by
  unfold bold
  rw [String.toList_append, String.toList_append]
  rfl

/-- A piece that closes nothing, in bold and in front of something else. -/
theorem fits_bold {s : String} {rest : List Char} (hs : ClosesNone s) (h : Fits false [] rest) :
    Fits false [] ((bold s).toList ++ rest) := by
  have hclose : ∀ escaped,
      Fits escaped ["bold".toList] ('[' :: '/' :: ("bold".toList ++ ']' :: rest)) :=
    fun _ => h.closing (isStyle "bold" (by decide))
  rw [toList_bold]
  simpa using Fits.opening (isStyle "bold" (by decide)) (Fits.closesNone hs (by simp) hclose)

/-! ### Before a run -/

theorem isInOrder_announcement {p : Pipeline} {chosen : List String} {t : Task}
    (h : ∀ text ∈ t.mentioned p chosen, ClosesNone text) :
    ∀ what ∈ t.announcement, what.IsInOrder := by
  have hline : ∀ before name, before.toList.all isPlain = true → before.toList ≠ [] →
      ClosesNone name → (Printed.line (before ++ bold name)).IsInOrder := by
    intro before name hplain hne hname text htext
    obtain rfl := List.mem_singleton.1 htext
    refine Fits.isInOrder ?_
    rw [String.toList_append, ← List.append_nil (bold name).toList]
    exact .plain hplain hne (fits_bold hname .nil)
  intro what hwhat
  cases t with
  | model name | service name _ | feature name _ =>
      obtain rfl := List.mem_singleton.1 hwhat
      exact hline _ name rfl (by decide) (h name (List.mem_singleton.2 rfl))
  | everything | list => cases hwhat

theorem isInOrder_excludedLine {name : String} (h : ClosesNone name) :
    (excludedLine name).IsInOrder := by
  have hclose : Fits false ["yellow".toList] "[/yellow]".toList :=
    Fits.nil.closing (isStyle "yellow" (by decide))
  have hsaid : "' is excluded from generation.".toList.all isPlain = true := rfl
  have hbehind : ∀ escaped, Fits escaped ["yellow".toList]
      "' is excluded from generation.[/yellow]".toList := fun _ =>
    hclose.plain hsaid (by decide)
  have hfront : "⚠️ Model '".toList.all isPlain = true := rfl
  intro text htext
  obtain rfl := List.mem_singleton.1 htext
  refine Fits.isInOrder ?_
  rw [String.toList_append, String.toList_append, List.append_assoc]
  exact Fits.opening (isStyle "yellow" (by decide))
    (.plain hfront (by decide) (.closesNone h (by decide) hbehind))

/-- A line that may stand in front of whatever fits behind any number of backslashes. -/
def Stands (line : String) : Prop :=
  ∀ rest, rest.head? ≠ some '/' → (∀ escaped, Fits escaped [] rest) →
    Fits false [] (line.toList ++ rest)

theorem stands_item {name : String} (h : ClosesNone name) : Stands ("  • " ++ name) := by
  intro rest hhead hrest
  rw [String.toList_append, List.append_assoc]
  exact .plain rfl (by decide) (.closesNone h hhead hrest)

theorem stands_labelled {label value : String} (hlabel : ClosesNone label)
    (hvalue : ClosesNone value) : Stands (bold label ++ " " ++ value) := by
  intro rest hhead hrest
  rw [String.toList_append, String.toList_append, List.append_assoc, List.append_assoc]
  exact fits_bold hlabel (.plain rfl (by decide) (.closesNone hvalue hhead hrest))

/-- The break behind a line ends a row of backslashes. -/
theorem fits_join {lines : List String} (h : ∀ line ∈ lines, Stands line) :
    Fits false [] (Text.join "\n" lines).toList := by
  rw [Text.toList_join]
  induction lines with
  | nil => exact .nil
  | cons line rest ih =>
      have hline := h line (List.mem_cons_self ..)
      have hrest := ih fun l hl => h l (List.mem_cons_of_mem _ hl)
      cases rest with
      | nil =>
          rw [List.map_cons, List.map_nil, List.intercalate_singleton,
            ← List.append_nil line.toList]
          exact hline [] (by simp) fun _ => .nil
      | cons next rest =>
          rw [List.map_cons, List.map_cons, List.intercalate_cons_cons, List.append_assoc]
          exact hline _ (by simp) fun _ => hrest.cons rfl

theorem join_split (s : String) : Text.join "\n" (Text.split '\n' s) = s := by
  rw [← String.toList_inj, Text.toList_join, Text.split, List.map_map]
  have hmap : (s.toList.splitOn '\n').map (String.toList ∘ String.ofList) =
      s.toList.splitOn '\n' := by simp [Function.comp_def]
  rw [hmap]
  exact List.intercalate_splitOn '\n'

/-- What is planned for many models is in order if no name closes anything, and neither do the
groups, the number of files and the directory. -/
theorem isInOrder_planPanel {models groups : List String} {files directory : String}
    (hmodels : ∀ name ∈ models, ClosesNone name) (hgroups : ClosesNone (Text.join ", " groups))
    (hfiles : ClosesNone files) (hdirectory : ClosesNone directory) :
    (planPanel models groups files directory).IsInOrder := by
  have hcount : ClosesNone (toString models.length) := .toString_nat _
  intro text htext
  rcases List.mem_cons.1 htext with rfl | htext
  · decide
  obtain rfl := List.mem_singleton.1 htext
  rw [join_split]
  refine (fits_join fun line hline => ?_).isInOrder
  simp only [List.mem_append, List.mem_cons, List.mem_map, List.not_mem_nil, or_false] at hline
  rcases hline with (rfl | ⟨name, hname, rfl⟩) | rfl | rfl | rfl
  · exact stands_labelled (by decide) hcount
  · exact stands_item (hmodels name hname)
  · exact stands_labelled (by decide) hgroups
  · exact stands_labelled (by decide) hfiles
  · exact stands_labelled (by decide) hdirectory

/-! ### During a run and after it -/

theorem isInOrder_progressLine {description : String} (h : ClosesNone description) :
    IsInOrder (progressLine description) := by
  have hdescription :
      Fits false ["progress.description".toList] (description.toList ++ []) :=
    .closesNone h (by simp) fun _ => .nil
  refine Fits.isInOrder ?_
  unfold progressLine
  rw [String.toList_append, ← List.append_nil description.toList]
  exact .opening (isStyle "progress.description" (by decide)) hdescription

theorem isInOrder_progressLines {reported : Summary} (h : ∀ r ∈ reported, IsLegible r) :
    (progressLines reported).IsInOrder := by
  intro text htext
  rcases List.mem_cons.1 htext with rfl | htext
  · decide
  obtain ⟨r, hr, rfl⟩ := List.mem_map.1 htext
  exact isInOrder_progressLine (h r hr).2.2

/-- The table of results holds nothing but their paths and reasons, and what became of each. -/
theorem isInOrder_summaryTable {s : Summary} (h : ∀ r ∈ s, IsLegible r) :
    ∀ what ∈ summaryTable s, what.IsInOrder := by
  have hstatus : ∀ status, IsInOrder (statusCell status) := fun status => by
    cases status <;> decide
  intro what hwhat text htext
  unfold summaryTable at hwhat
  split at hwhat
  · cases hwhat
  obtain rfl := List.mem_singleton.1 hwhat
  rcases List.mem_append.1 htext with htitle | hrows
  · have htitles : ∀ title ∈ ["📊 Generation Summary", "File", "Status", "Reason"],
        IsInOrder title := by decide
    exact htitles text htitle
  · obtain ⟨row, hrow, htext⟩ := List.mem_flatten.1 hrows
    obtain ⟨r, hr, rfl⟩ := List.mem_map.1 hrow
    obtain ⟨hpath, hreason, -⟩ := h r hr
    simp only [List.mem_cons, List.not_mem_nil, or_false] at htext
    rcases htext with rfl | rfl | rfl
    · exact hpath.isInOrder
    · exact hstatus r.status
    · exact hreason.isInOrder

theorem isInOrder_countsLine (s : Summary) : (countsLine s).IsInOrder := by
  -- Each number stands between the tags of a style of its own.
  have hcount : ∀ (style label : String) (n : Nat) {rest : List Char},
      style ∈ ["bold", "yellow", "green", "red", "progress.description"] →
      label.toList.all isPlain = true → label.toList ≠ [] → Fits false [] rest →
      Fits false [] ('[' :: (style.toList ++ ']' :: (label.toList ++ ((toString n).toList ++
        '[' :: '/' :: (style.toList ++ ']' :: rest))))) := by
    intro style label n rest hstyle hplain hne hrest
    exact .opening (isStyle style hstyle) (.plain hplain hne
      (.closesNone (ClosesNone.toString_nat n) (by simp) fun _ => hrest.closing (isStyle _ hstyle)))
  have hgap : "  ".toList.all isPlain = true := rfl
  intro text htext
  obtain rfl := List.mem_singleton.1 htext
  refine Fits.isInOrder ?_
  have hfailed := hcount "red" "Failed: " s.failed.length (by decide) rfl (by decide) .nil
  have hskipped := hcount "yellow" "Skipped: " s.skipped.length (by decide) rfl (by decide)
    (.plain hgap (by decide) hfailed)
  have hsucceeded := hcount "green" "Succeeded: " s.succeeded.length (by decide) rfl (by decide)
    (.plain hgap (by decide) hskipped)
  simpa using hsucceeded

/-- What became of the files is in order if nothing that is printed about one closes anything. -/
theorem isInOrder_summaryLines {s : Summary} (h : ∀ r ∈ s, IsLegible r) :
    ∀ what ∈ summaryLines s, what.IsInOrder := by
  intro what hwhat
  unfold summaryLines at hwhat
  rcases List.mem_append.1 hwhat with hwhat | hwhat
  · rcases List.mem_append.1 hwhat with htable | hcounts
    · exact isInOrder_summaryTable h what htable
    · obtain rfl := List.mem_singleton.1 hcounts
      exact isInOrder_countsLine s
  · split at hwhat
    · obtain rfl := List.mem_singleton.1 hwhat
      intro text htext
      obtain rfl := List.mem_singleton.1 htext
      decide
    · cases hwhat

end DartScaffold.Command
