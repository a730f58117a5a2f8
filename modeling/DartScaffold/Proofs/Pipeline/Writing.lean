/-
**What executing a planned file does.**

A planned file is rendered, it is decided whether it may be written, the directories on the way to
it are made, and the text is written.  Each of these steps can fail.  Whatever happens, the files
after it are those before it, or those with some directories made, or with the file written
besides; and which of these it is, the result tells.  Rendering, planning and analyzing change none
of what decides on writing: the files, the answers that are left, and whether files are overwritten
without asking.

Main definitions:

* `Retains` — a computation that changes nothing of what a view shows;
* `Pipeline.Stock`, `Pipeline.Stock.Refuses` — what decides on what is written, and that nothing
  is overwritten;
* `Pipeline.Settles` — what has become of a planned file, with the files before and after it.

Main results:

* `Pipeline.retains_analyze`, `Pipeline.retains_planModel`, `Pipeline.retains_render` — what does
  not change the stock;
* `Pipeline.execute_cases` — **what executing a planned file does**;
* `Pipeline.Settles.contentAt?_of_ne`, `Pipeline.Settles.contentAt?_written` — which files it
  changes;
* `Pipeline.Settles.isNew` — without leave to overwrite, a file at a steady path is new.
-/

import Mathlib
import DartScaffold.Proofs.Files.Growth
import DartScaffold.Proofs.Pipeline.Ending
import DartScaffold.Proofs.Pipeline.Unlogged

set_option relaxedAutoImplicit false
set_option autoImplicit false

namespace DartScaffold

variable {σ α β γ : Type} {view : σ → γ}

/-! ### What stays the same -/

/-- Whatever a computation ends in, what a view shows stays the same. -/
def Retains (view : σ → γ) (x : ExceptT Fault (StateM σ) α) : Prop :=
  ∀ s, view (x.run.run s).2 = view s

namespace Retains

theorem pure (a : α) : Retains view (pure a : ExceptT Fault (StateM σ) α) := fun _ => rfl

theorem throw (f : Fault) : Retains view (throw f : ExceptT Fault (StateM σ) α) := fun _ => rfl

theorem liftFault (x : Except Fault α) : Retains view (liftM x : ExceptT Fault (StateM σ) α) :=
  fun _ => rfl

theorem liftMisuse (x : Except Misuse α) : Retains view (liftM x : ExceptT Fault (StateM σ) α) :=
  fun _ => rfl

theorem liftFile (x : Except FileError α) : Retains view (liftM x : ExceptT Fault (StateM σ) α) :=
  fun _ => rfl

theorem bind {x : ExceptT Fault (StateM σ) α} {f : α → ExceptT Fault (StateM σ) β}
    (hx : Retains view x) (hf : ∀ a, Retains view (f a)) : Retains view (x >>= f) := by
  intro s
  have hfirst := hx s
  rw [run_bind]
  rcases hs : x.run.run s with ⟨r, s'⟩
  rw [hs] at hfirst
  cases r with
  | ok a => exact (hf a s').trans hfirst
  | error f => exact hfirst

theorem ite {c : Prop} [Decidable c] {x y : ExceptT Fault (StateM σ) α} (hx : Retains view x)
    (hy : Retains view y) : Retains view (if c then x else y) := by
  by_cases h : c
  · rw [if_pos h]
    exact hx
  · rw [if_neg h]
    exact hy

theorem mapM {f : α → ExceptT Fault (StateM σ) β} (hf : ∀ a, Retains view (f a)) (as : List α) :
    Retains view (as.mapM f) := by
  induction as with
  | nil =>
      rw [List.mapM_nil]
      exact pure []
  | cons a as ih =>
      rw [List.mapM_cons]
      exact (hf a).bind fun b => ih.bind fun bs => pure (b :: bs)

end Retains

/-- What a session holds of what decides on writing. -/
def Session.stock (s : Session) : FileTree × List Bool := (s.tree, s.answers)

namespace Pipeline

/-- What decides on what is written: the files, the answers that are left, and whether files are
overwritten without asking. -/
structure Stock where
  tree : FileTree
  answers : List Bool
  force : Bool

/-- What a workshop holds of it. -/
def Workshop.stock (w : Workshop) : Stock := ⟨w.session.tree, w.session.answers, w.force⟩

theorem retains_ofRun {x : Run α} (hx : Retains Session.stock x) :
    Retains Workshop.stock (Work.ofRun x) := by
  intro w
  obtain ⟨htree, hanswers⟩ := Prod.mk.inj (hx w.session)
  show Stock.mk _ _ _ = Stock.mk _ _ _
  rw [← htree, ← hanswers]
  rfl

theorem retains_record (severity : Severity) (texts : List String) :
    Retains Session.stock (Run.record severity texts) := by
  intro s
  show (if severity.reaches s.threshold then _ else s : Session).stock = _
  by_cases h : severity.reaches s.threshold = true
  · rw [if_pos h]
    rfl
  · rw [if_neg h]

theorem retains_presentDirectories (directories : List Path) :
    Retains Session.stock (Template.Library.presentDirectories directories) := by
  induction directories with
  | nil => exact .pure []
  | cons d rest ih =>
      unfold Template.Library.presentDirectories
      refine Retains.bind (fun _ => rfl) fun tree => (Retains.liftFile _).bind fun there => ?_
      exact .ite ((retains_record _ _).bind fun _ => ih.bind fun _ => .pure _)
        (ih.bind fun _ => .pure _)

theorem retains_make (component : Dart.Component) (settings : Settings) :
    Retains Session.stock (Dart.Generator.make component settings) := by
  unfold Dart.Generator.make Template.Library.make
  refine (Retains.liftMisuse _).bind fun directories => ?_
  refine Retains.bind ((retains_presentDirectories directories).bind fun present => ?_)
    fun library => .pure _
  exact Retains.bind (fun _ => rfl) fun tree => (Retains.pure _).bind fun last => .pure _

variable (p : Pipeline)

theorem retains_generator (name : String) : Retains Workshop.stock (p.generator name) := by
  unfold generator
  refine Retains.bind (fun _ => rfl) fun w => ?_
  split
  · exact .pure _
  · refine (retains_ofRun ?_).bind fun g => ?_
    · exact (Retains.liftFault _).bind fun c => (Retains.pure _).bind fun s => retains_make c s
    · exact Retains.bind (fun _ => rfl) fun _ => .pure g

theorem retains_render (source : Source) : Retains Workshop.stock (p.render source) := by
  unfold render
  cases source with
  | given content => exact .pure content
  | fails reason => exact .throw _
  | artifact a m =>
      refine (retains_generator p _).bind fun g => Retains.bind (fun _ => rfl) fun tree => ?_
      refine (retains_ofRun (retains_record _ _)).bind fun _ => ?_
      refine Retains.bind (fun _ => rfl) fun _ => ?_
      exact (Retains.liftFault _).bind fun text => .pure _

/-- An analysis logs, and keeps the analysis of the routes. -/
theorem retains_analyze (model : Datum) (withRoutes : Bool) :
    Retains Workshop.stock (p.analyze model withRoutes) := by
  unfold analyze
  refine (Retains.liftFault _).bind fun view => ?_
  refine Retains.bind (fun w => ?_) fun m => .ite (Retains.bind ?_ fun _ => .pure _) (.pure _)
  · obtain ⟨log, heq⟩ :=
      Workshop.exists_log
        ((logsOnly_ofRun (Analysis.logsOnly_analyze logsOnly_record _ _ view)).same w)
    exact (congrArg Workshop.stock heq).symm
  · unfold routeAnalysis
    refine Retains.bind (fun _ => rfl) fun w => ?_
    split
    · exact .pure _
    · have hkept : ∀ a : Routing.Analysis, Retains Workshop.stock (do
          Work.change fun w => { w with routes := some a }
          return a : Work Routing.Analysis) :=
        fun a => Retains.bind (fun _ => rfl) fun _ => .pure a
      split
      · exact hkept _
      · exact (retains_ofRun (retains_record _ _)).bind fun _ => hkept _
      · exact .throw _

theorem retains_planModel (m : Model) (names : Datum) :
    Retains Workshop.stock (p.planModel m names) := by
  unfold planModel
  refine (Retains.liftMisuse _).bind fun names =>
    Retains.bind (.mapM (fun g => ?_) _) fun _ => .pure _
  exact (retains_generator p _).bind fun _ => .liftMisuse _

theorem retains_planBase : Retains Workshop.stock p.planBase :=
  (retains_generator p _).bind fun _ => .liftMisuse _

/-! ### Single steps -/

/-- The workshop with other files. -/
def Workshop.withTree (w : Workshop) (tree : FileTree) : Workshop :=
  { w with session := { w.session with tree := tree } }

/-- The workshop after a question was asked. -/
def Workshop.asked (w : Workshop) (question : String) : Workshop :=
  { w with session :=
    { w.session with
      shown := w.session.shown ++ [Shown.asked question]
      answers := w.session.answers.tail } }

theorem run_tree (w : Workshop) :
    (liftM Run.tree : Work FileTree).run.run w = (.ok w.session.tree, w) := rfl

theorem run_liftFile {α : Type} (x : Except FileError α) (w : Workshop) :
    (liftM x : Work α).run.run w = (x.mapError Fault.file, w) := rfl

theorem run_makeDirectories (directory : Path) (w : Workshop) :
    (makeDirectories directory).run.run w =
      ((w.session.tree.makeDirectories directory).2.mapError Fault.file,
        w.withTree (w.session.tree.makeDirectories directory).1) := rfl

/-- What deciding on a file comes to. -/
theorem run_mayWrite (path : Path) (w : Workshop) : (p.mayWrite path).run.run w =
    match w.session.tree.pathExists path with
    | .error e => (.error (.file e), w)
    | .ok there =>
      if !there || w.force then (.ok true, w)
      else
        match p.question with
        | none => (.ok false, w)
        | some question =>
          (.ok (w.session.answers.headD false), w.asked (question path.text)) := by
  unfold mayWrite
  rw [run_bind, run_tree]
  dsimp only
  rw [run_bind]
  cases w.session.tree.pathExists path with
  | error e => rfl
  | ok there =>
      show (Work.now >>= _).run.run w = _
      rw [run_bind]
      show (if !there || w.force then _ else _ : Work Bool).run.run w = _
      dsimp only
      by_cases hmay : (!there || w.force) = true
      · rw [if_pos hmay, if_pos hmay]
        rfl
      · rw [if_neg hmay, if_neg hmay]
        cases p.question <;> rfl

/-- Writes a text to a file. -/
def store (path : Path) (content : Datum) : Work Status := do
  let text ← (writtenText content : Except Misuse String)
  setTree (← ((← Run.tree).write path text : Except FileError FileTree))
  return .written

/-- Writes a text to a file, with the directories on the way to it. -/
def deposit (path : Path) (content : Datum) : Work Status := do
  if !(← ((← Run.tree).pathExists path.parent : Except FileError Bool)) then
    makeDirectories path.parent
  store path content

/-- Writing is deciding and then, if the file may be written, writing. -/
theorem write_eq (file : String) (content : Datum) : p.write file content = (do
    if ← p.mayWrite (Path.ofString file) then deposit (Path.ofString file) content
    else return .skipped) := by
  unfold write deposit store
  refine bind_congr fun may => ?_
  cases may <;> rfl

/-- A text is written, or nothing changes. -/
theorem run_store (path : Path) (content : Datum) (w : Workshop) :
    (∃ fault, (store path content).run.run w = (.error fault, w)) ∨
      ∃ s t, content = .text s ∧ w.session.tree.write path s = .ok t ∧
        (store path content).run.run w = (.ok .written, w.withTree t) := by
  cases content with
  | text s =>
      have hrun : (store path (.text s)).run.run w =
          ((liftM (w.session.tree.write path s) : Work FileTree) >>= fun t => do
            setTree t
            return .written).run.run w := rfl
      rw [hrun, run_bind, run_liftFile]
      cases hwrite : w.session.tree.write path s with
      | error e => exact .inl ⟨.file e, rfl⟩
      | ok t => exact .inr ⟨s, t, rfl, hwrite, rfl⟩
  | _ => exact .inl ⟨_, rfl⟩

/-- A text is written, or at most directories are made. -/
theorem run_deposit (path : Path) (content : Datum) (w : Workshop) :
    ∃ made, (made = w.session.tree ∨ made = (w.session.tree.makeDirectories path.parent).1) ∧
      ((∃ fault, (deposit path content).run.run w = (.error fault, w.withTree made)) ∨
        ∃ s t, content = .text s ∧ made.write path s = .ok t ∧
          (deposit path content).run.run w = (.ok .written, w.withTree t)) := by
  have hrun : (deposit path content).run.run w =
      ((liftM (w.session.tree.pathExists path.parent) : Work Bool) >>= fun there =>
        if there then store path content
        else makeDirectories path.parent >>= fun _ => store path content).run.run w := by
    unfold deposit
    rw [run_bind, run_tree]
    refine congrArg (fun x : Work Status => x.run.run w) (bind_congr fun there => ?_)
    cases there <;> rfl
  rw [hrun, run_bind, run_liftFile]
  cases w.session.tree.pathExists path.parent with
  | error e => exact ⟨_, .inl rfl, .inl ⟨_, rfl⟩⟩
  | ok there =>
      cases there with
      | true => exact ⟨_, .inl rfl, run_store path content w⟩
      | false =>
          refine ⟨_, .inr rfl, ?_⟩
          show (∃ fault, (makeDirectories path.parent >>= fun _ => store path content).run.run w =
            _) ∨ ∃ s t, _ ∧ _ ∧ (makeDirectories path.parent >>= fun _ =>
              store path content).run.run w = _
          rw [run_bind, run_makeDirectories]
          cases (w.session.tree.makeDirectories path.parent).2 with
          | error e => exact .inl ⟨_, rfl⟩
          | ok _ => exact run_store path content _

/-! ### What becomes of a planned file -/

/-- What has become of a file that was rendered, or was not, with the files before and after. -/
inductive Settles (p : Pipeline) (k : Stock) (path : Path) :
    Except Fault Datum → Status → FileTree → Prop
  /-- The directories on the way were there or were made, and the text was written. -/
  | written (s : String) (made tree : FileTree)
    (may : k.tree.pathExists path = .ok false ∨ k.force = true ∨
      p.question ≠ none ∧ true ∈ k.answers)
    (hmade : made = k.tree ∨ made = (k.tree.makeDirectories path.parent).1)
    (hwrite : made.write path s = .ok tree) : Settles p k path (.ok (.text s)) .written tree
  /-- There was something at the path already. -/
  | skipped (content : Datum) (there : k.tree.pathExists path = .ok true)
    (hforce : k.force = false) : Settles p k path (.ok content) .skipped k.tree
  /-- At most some directories were made. -/
  | failed (rendered : Except Fault Datum) (tree : FileTree)
    (hmade : tree = k.tree ∨ tree = (k.tree.makeDirectories path.parent).1) :
    Settles p k path rendered .failed tree

/-- What an attempt to write a file comes to. -/
def statusOf : Except Fault Status → Status
  | .ok status => status
  | .error _ => .failed

/-- What deciding on a file changes, and what it tells. -/
theorem mayWrite_cases (path : Path) (w : Workshop) : ∃ r w',
    (p.mayWrite path).run.run w = (r, w') ∧ w'.session.tree = w.session.tree ∧
      w'.force = w.force ∧ w'.generators = w.generators ∧
      w'.session.answers <:+ w.session.answers ∧
      (r = .ok true → w.session.tree.pathExists path = .ok false ∨ w.force = true ∨
        p.question ≠ none ∧ true ∈ w.session.answers) ∧
      (r = .ok false → w.session.tree.pathExists path = .ok true ∧ w.force = false) := by
  rw [run_mayWrite]
  cases hthere : w.session.tree.pathExists path with
  | error e => exact ⟨_, _, rfl, rfl, rfl, rfl, List.suffix_rfl, by simp, by simp⟩
  | ok there =>
      cases there with
      | false => exact ⟨_, _, rfl, rfl, rfl, rfl, List.suffix_rfl, by simp, by simp⟩
      | true =>
          cases hforce : w.force with
          | true => exact ⟨_, _, rfl, rfl, hforce, rfl, List.suffix_rfl, by simp, by simp⟩
          | false =>
              cases hquestion : p.question with
              | none => exact ⟨_, _, rfl, rfl, hforce, rfl, List.suffix_rfl, by simp, by simp⟩
              | some question =>
                  refine ⟨_, _, rfl, rfl, hforce, rfl, List.tail_suffix _, ?_, by simp⟩
                  intro hyes
                  refine .inr (.inr ⟨by simp, ?_⟩)
                  cases hanswers : w.session.answers with
                  | nil => simp [hanswers] at hyes
                  | cons a rest =>
                      simp only [hanswers, List.headD_cons, Except.ok.injEq] at hyes
                      simp [hyes]

/-- What writing a text to a file does. -/
theorem write_cases (file : String) (content : Datum) (w : Workshop) : ∃ r w',
    (p.write file content).run.run w = (r, w') ∧
      Settles p w.stock (Path.ofString file) (.ok content) (statusOf r) w'.session.tree ∧
      w'.force = w.force ∧ w'.generators = w.generators ∧
      w'.session.answers <:+ w.session.answers := by
  obtain ⟨r, w₁, hmay, htree, hforce, hgenerators, hanswers, hyes, hno⟩ :=
    mayWrite_cases p (Path.ofString file) w
  rw [write_eq, run_bind, hmay]
  rcases r with fault | may
  · exact ⟨_, _, rfl, .failed _ _ (.inl htree), hforce, hgenerators, hanswers⟩
  · cases may with
    | false =>
        obtain ⟨hthere, hunforced⟩ := hno rfl
        refine ⟨_, _, rfl, ?_, hforce, hgenerators, hanswers⟩
        rw [htree]
        exact .skipped content hthere hunforced
    | true =>
        obtain ⟨made, hmade, hdeposit⟩ := run_deposit (Path.ofString file) content w₁
        rw [htree] at hmade
        rcases hdeposit with ⟨fault, hrun⟩ | ⟨s, t, rfl, hwrite, hrun⟩
        · exact ⟨_, _, hrun, .failed _ _ hmade, hforce, hgenerators, hanswers⟩
        · exact ⟨_, _, hrun, .written s made t (hyes rfl) hmade hwrite, hforce, hgenerators,
            hanswers⟩

/-- Recording a fault changes nothing but the log. -/
theorem run_execute (f : Planned) (w : Workshop) : ∃ r w',
    (p.execute f).run.run w = (.ok r, w') ∧
      r.status = statusOf ((p.render f.source >>= p.write f.path).run.run w).1 ∧
      w'.stock = ((p.render f.source >>= p.write f.path).run.run w).2.stock ∧
      w'.generators = ((p.render f.source >>= p.write f.path).run.run w).2.generators := by
  have hattempt : (p.execute f).run.run w = _ := run_bind_attempt _ _ w
  rw [hattempt]
  rcases (p.render f.source >>= p.write f.path).run.run w with ⟨r, w₁⟩
  cases r with
  | ok status => exact ⟨_, w₁, rfl, rfl, rfl, rfl⟩
  | error fault => exact ⟨_, _, rfl, rfl, retains_ofRun (retains_record .error _) w₁, rfl⟩

/-- **What executing a planned file does.** -/
theorem execute_cases (f : Planned) (w : Workshop) : ∃ r w',
    (p.execute f).run.run w = (.ok r, w') ∧
      Settles p w.stock (Path.ofString f.path) ((p.render f.source).run.run w).1 r.status
        w'.session.tree ∧
      w'.force = w.force ∧ w'.session.answers <:+ w.session.answers ∧
      w'.generators = ((p.render f.source).run.run w).2.generators := by
  obtain ⟨r, w', hrun, hstatus, hstock, hgenerators⟩ := run_execute p f w
  refine ⟨r, w', hrun, ?_⟩
  -- What is written is decided by the stock, which rendering leaves as it is.
  have hrendered := retains_render p f.source w
  rw [run_bind] at hstatus hstock hgenerators
  rcases hrender : (p.render f.source).run.run w with ⟨rendered, w₁⟩
  rw [hrender] at hstatus hstock hgenerators hrendered
  cases rendered with
  | error fault =>
      obtain ⟨htree, hanswers, hforce⟩ := Stock.mk.inj (hstock.trans hrendered)
      rw [hstatus, hanswers]
      exact ⟨.failed _ _ (.inl htree), hforce, List.suffix_rfl, hgenerators⟩
  | ok content =>
      obtain ⟨r₁, w₂, hwrite, hsettles, hforce₂, hgenerators₂, hanswers₂⟩ :=
        write_cases p f.path content w₁
      simp only [hwrite] at hstatus hstock hgenerators
      obtain ⟨htree, hanswers, hforce⟩ := Stock.mk.inj hstock
      obtain ⟨-, hanswers₁, hforce₁⟩ := Stock.mk.inj hrendered
      rw [hstatus, htree, hanswers, hforce, hgenerators, ← hrendered, ← hanswers₁, ← hforce₁]
      exact ⟨hsettles, hforce₂, hanswers₂, hgenerators₂⟩

/-! ### Which files change -/

/-- Nothing is overwritten: neither without asking nor because whoever is asked agrees. -/
structure Stock.Refuses (p : Pipeline) (k : Stock) : Prop where
  force : k.force = false
  answers : p.question = none ∨ true ∉ k.answers

namespace Settles

variable {p : Pipeline} {k : Stock} {path : Path} {rendered : Except Fault Datum} {status : Status}
  {tree : FileTree}

theorem grows (h : Settles p k path rendered status tree) : k.tree.Grows tree := by
  have hmake := (FileTree.keeps_makeDirectories k.tree path.parent).grows
  cases h with
  | written s made tree may hmade hwrite =>
      rcases hmade with rfl | rfl
      · exact FileTree.grows_write hwrite
      · exact hmake.trans (FileTree.grows_write hwrite)
  | skipped content there hforce => exact .refl _
  | failed rendered tree hmade =>
      rcases hmade with rfl | rfl
      · exact .refl _
      · exact hmake

theorem wellFormed (h : Settles p k path rendered status tree) (hwf : k.tree.WellFormed) :
    tree.WellFormed := by
  have hmake := hwf.makeDirectories path.parent
  cases h with
  | written s made tree may hmade hwrite =>
      rcases hmade with rfl | rfl
      · exact hwf.write hwrite
      · exact hmake.write hwrite
  | skipped content there hforce => exact hwf
  | failed rendered tree hmade =>
      rcases hmade with rfl | rfl
      · exact hwf
      · exact hmake

/-- A file that is not written changes no file. -/
theorem contentAt?_of_ne (h : Settles p k path rendered status tree) (hne : status ≠ .written) :
    tree.contentAt? = k.tree.contentAt? := by
  cases h with
  | written s made tree may hmade hwrite => exact absurd rfl hne
  | skipped content there hforce => rfl
  | failed rendered tree hmade =>
      rcases hmade with rfl | rfl
      · rfl
      · exact FileTree.contentAt?_makeDirectories _ _

/-- A file that is written changes, and no other one. -/
theorem contentAt?_written (h : Settles p k path rendered .written tree) :
    ∃ s, rendered = .ok (.text s) ∧ tree.locate path = .ok (k.tree.target path) ∧
      tree.contentAt? =
        Function.update k.tree.contentAt? (k.tree.target path) (some (.text s)) := by
  cases h with
  | written s made tree may hmade hwrite =>
      have hlocated := (FileTree.locate_of_write hwrite).1
      have hcontent := FileTree.contentAt?_write hwrite
      refine ⟨s, rfl, ?_⟩
      rcases hmade with rfl | rfl
      · exact ⟨hlocated, hcontent⟩
      · rw [(FileTree.keeps_makeDirectories _ _).grows.target path] at hlocated hcontent
        rw [FileTree.contentAt?_makeDirectories] at hcontent
        exact ⟨hlocated, hcontent⟩

/-- What did not fail is there. -/
theorem pathExists (h : Settles p k path rendered status tree) (hne : status ≠ .failed) :
    tree.pathExists path = .ok true := by
  cases h with
  | written s made tree may hmade hwrite => exact FileTree.pathExists_of_write hwrite
  | skipped content there hforce => exact there
  | failed rendered tree hmade => exact absurd rfl hne

/-- If files are overwritten without asking, nothing is skipped. -/
theorem ne_skipped (h : Settles p k path rendered status tree) (hforce : k.force = true) :
    status ≠ .skipped := by
  cases h with
  | written s made tree may hmade hwrite => decide
  | skipped content there hunforced =>
      rw [hforce] at hunforced
      cases hunforced
  | failed rendered tree hmade => decide

/-- If nothing is overwritten, there is nothing at the path of a file that is written. -/
theorem pathExists_of_refuses (h : Settles p k path rendered .written tree)
    (hrefuses : k.Refuses p) : k.tree.pathExists path = .ok false := by
  cases h with
  | written s made tree may hmade hwrite =>
      rcases may with hthere | hforce | ⟨hquestion, hyes⟩
      · exact hthere
      · rw [hrefuses.force] at hforce
        cases hforce
      · rcases hrefuses.answers with hnone | hno
        · exact absurd hnone hquestion
        · exact absurd hyes hno

/-- **Without leave to overwrite, a file at a steady path is new.** -/
theorem isNew (h : Settles p k path rendered .written tree) (hrefuses : k.Refuses p)
    (hwf : k.tree.WellFormed) (hsteady : k.tree.Steady path) :
    k.tree.node? (k.tree.target path) = none := by
  have hthere := h.pathExists_of_refuses hrefuses
  obtain ⟨s, -, hlocated, -⟩ := h.contentAt?_written
  by_contra hsome
  obtain ⟨node, hnode⟩ := Option.ne_none_iff_exists'.1 hsome
  -- A steady path leads to what is there, so it would have been found.
  have hl := FileTree.locate_of_steady hwf hsteady (by rw [hnode]; rfl) hlocated
  have htrue := FileTree.pathExists_eq_true_iff.2 ⟨node, FileTree.status_eq_ok_iff.2 ⟨hl, hnode⟩⟩
  rw [hthere] at htrue
  cases htrue

end Settles

end Pipeline

end DartScaffold
