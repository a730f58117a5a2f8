/-
**A run that is repeated.**

A run is repeated on the files that it left behind, by the same pipeline, which has kept its
generators, or by a new one.  The two runs are compared step by step.  What the second run has at
some step lies between what the first one had at that step and what it had in the end: the files are
those of the end, and each generator remembers at least what that of the first run remembered then
and at most what it came to remember.  A step of the first run that leads on leads the second one
on, too, and keeps it in between.

Main definitions:

* `Pipeline.Workshop.Sound`, `Pipeline.Workshop.Leads` — a workshop without leave to overwrite, and
  what it leads to;
* `Pipeline.Between` — the workshop of the second run, between that of the first run and its end;
* `Pipeline.Repeats` — a computation that can be repeated in between.

Main results:

* `Pipeline.Repeats.bind`, `Pipeline.Repeats.mapM` — sequences and loops;
* `Pipeline.generator_again`, `Pipeline.repeats_render` — generators and texts;
* `Pipeline.repeats_execute` — **a planned file that did not fail is skipped the second time**.
-/

import Mathlib
import DartScaffold.Proofs.Pipeline.NewGenerators
import DartScaffold.Proofs.Pipeline.Turns

set_option relaxedAutoImplicit false
set_option autoImplicit false

namespace DartScaffold.Pipeline

open Dart (Artifact Generator)
open Template (Library)

variable {p : Pipeline} {α β γ δ : Type} {start tree tree' : FileTree} {g g' : Generator}
  {name : String} {w w' w₁ v final : Workshop}

/-! ### The workshops of the two runs -/

/-- A workshop without leave to overwrite whose generators keep only what is still there. -/
structure Workshop.Sound (p : Pipeline) (start : FileTree) (w : Workshop) : Prop where
  grows : start.Grows w.session.tree
  wellFormed : w.session.tree.WellFormed
  force : w.force = false
  generators : ∀ name g, w.generators.lookup name = some g →
    g.library.Sound p.templateDirectories w.session.tree

/-- Files of Dart are added, and generators forget nothing. -/
structure Workshop.Leads (p : Pipeline) (w w' : Workshop) : Prop where
  tree : w.session.tree.Evolves p.templateDirectories w'.session.tree
  generators : ∀ name g, w.generators.lookup name = some g →
    ∃ g', w'.generators.lookup name = some g' ∧ g.Extends g' ∧
      g'.library.directories = g.library.directories

theorem Workshop.Leads.refl (w : Workshop) : w.Leads p w :=
  ⟨.refl _, fun _ g hg => ⟨g, hg, .refl g, rfl⟩⟩

theorem Workshop.Leads.trans (h : w.Leads p w') (h' : w'.Leads p w₁) : w.Leads p w₁ := by
  refine ⟨h.tree.trans h'.tree, fun name g hg => ?_⟩
  obtain ⟨g', hg', hext, hdirectories⟩ := h.generators name g hg
  obtain ⟨g₁, hg₁, hext', hdirectories'⟩ := h'.generators name g' hg'
  exact ⟨g₁, hg₁, hext.trans hext', hdirectories'.trans hdirectories⟩

/-- The workshop of a second run between that of the first run and its end.  If it lacks generators,
the directory of templates is not one that only the run has led to. -/
structure Between (p : Pipeline) (w v final : Workshop) : Prop where
  tree : v.session.tree = final.session.tree
  force : v.force = false
  lower : ∀ name g, w.generators.lookup name = some g →
    ∃ g', v.generators.lookup name = some g' ∧ g.Extends g'
  upper : ∀ name g', v.generators.lookup name = some g' →
    ∃ last, final.generators.lookup name = some last ∧ g'.Extends last ∧
      last.library.Serves final.session.tree g'.library
  ready : (∀ name, v.generators.lookup name = none → final.generators.lookup name = none) ∨
    ∀ d ∈ p.templateDirectories, Foreseen w.session.tree final.session.tree d

/-! ### Steps that change no file -/

/-- A workshop whose files are those of a sound one is sound, if its generators are. -/
theorem Workshop.Sound.of_stock (h : w.Sound p start) (hstock : w'.stock = w.stock)
    (hgenerators : ∀ name g, w'.generators.lookup name = some g →
      g.library.Sound p.templateDirectories w.session.tree) : w'.Sound p start := by
  obtain ⟨htree, -, hforce⟩ := Stock.mk.inj hstock
  refine ⟨?_, ?_, hforce.trans h.force, ?_⟩
  · rw [htree]
    exact h.grows
  · rw [htree]
    exact h.wellFormed
  · rwa [htree]

theorem Workshop.Leads.of_stock (hstock : w'.stock = w.stock)
    (hgenerators : w'.generators = w.generators) : w.Leads p w' := by
  obtain ⟨htree, -, -⟩ := Stock.mk.inj hstock
  refine ⟨?_, fun name g hg => ⟨g, ?_, .refl g, rfl⟩⟩
  · rw [htree]
    exact .refl _
  · rwa [hgenerators]

/-- What changes no generator, and in the second run no file either, leaves everything between. -/
theorem Between.of_stock {v' : Workshop} (h : Between p w v final)
    (hgrows : w.session.tree.Grows w'.session.tree)
    (hlater : w'.session.tree.Grows final.session.tree) (hw : w'.generators = w.generators)
    (hstock : v'.stock = v.stock) (hv : v'.generators = v.generators) :
    Between p w' v' final := by
  obtain ⟨htree, -, hforce⟩ := Stock.mk.inj hstock
  refine ⟨htree.trans h.tree, hforce.trans h.force, ?_, ?_, ?_⟩
  · rw [hw, hv]
    exact h.lower
  · rw [hv]
    exact h.upper
  · rw [hv]
    exact h.ready.imp_right fun hforeseen d hd => (hforeseen d hd).later hgrows hlater

/-! ### Steps that put a generator -/

theorem Workshop.Sound.put (h : w.Sound p start) (hstock : w'.stock = w.stock)
    (hput : w'.generators = w.generators.put name g)
    (hg : g.library.Sound p.templateDirectories w.session.tree) : w'.Sound p start := by
  refine h.of_stock hstock fun other found hfound => ?_
  rw [hput] at hfound
  rcases Entries.lookup_put_cases hfound with ⟨-, rfl⟩ | ⟨-, hfound⟩
  · exact hg
  · exact h.generators other found hfound

theorem Workshop.Leads.put (hstock : w'.stock = w.stock)
    (hput : w'.generators = w.generators.put name g)
    (hold : ∀ old, w.generators.lookup name = some old →
      old.Extends g ∧ g.library.directories = old.library.directories) : w.Leads p w' := by
  obtain ⟨htree, -, -⟩ := Stock.mk.inj hstock
  refine ⟨?_, fun other found hfound => ?_⟩
  · rw [htree]
    exact .refl _
  · rw [hput]
    by_cases heq : other = name
    · rw [heq, Entries.lookup_put_self]
      rw [heq] at hfound
      exact ⟨g, rfl, hold found hfound⟩
    · rw [Entries.lookup_put_of_ne heq]
      exact ⟨found, hfound, .refl found, rfl⟩

/-- Both runs put a generator under the same name. -/
theorem Between.put {v' : Workshop} (h : Between p w v final) (hw : w'.stock = w.stock)
    (hput : w'.generators = w.generators.put name g) (hv : v'.stock = v.stock)
    (hput' : v'.generators = v.generators.put name g') (hext : g.Extends g') {last : Generator}
    (hlast : final.generators.lookup name = some last) (hext' : g'.Extends last)
    (hserves : last.library.Serves final.session.tree g'.library) : Between p w' v' final := by
  obtain ⟨htree, -, -⟩ := Stock.mk.inj hw
  obtain ⟨htree', -, hforce'⟩ := Stock.mk.inj hv
  refine ⟨htree'.trans h.tree, hforce'.trans h.force, ?_, ?_, ?_⟩
  · intro other found hfound
    rw [hput] at hfound
    rw [hput']
    rcases Entries.lookup_put_cases hfound with ⟨rfl, rfl⟩ | ⟨hne, hfound⟩
    · exact ⟨g', Entries.lookup_put_self .., hext⟩
    · rw [Entries.lookup_put_of_ne hne]
      exact h.lower other found hfound
  · intro other found hfound
    rw [hput'] at hfound
    rcases Entries.lookup_put_cases hfound with ⟨rfl, rfl⟩ | ⟨-, hfound⟩
    · exact ⟨last, hlast, hext', hserves⟩
    · exact h.upper other found hfound
  · rw [htree]
    refine h.ready.imp_left fun hready other hnone => ?_
    rw [hput'] at hnone
    by_cases heq : other = name
    · rw [heq, Entries.lookup_put_self] at hnone
      cases hnone
    · rw [Entries.lookup_put_of_ne heq] at hnone
      exact hready other hnone

/-- Only the first run puts a generator, which the second one has already. -/
theorem Between.put_lower (h : Between p w v final) (hw : w'.stock = w.stock)
    (hput : w'.generators = w.generators.put name g)
    (hthere : v.generators.lookup name = some g') (hext : g.Extends g') :
    Between p w' v final := by
  obtain ⟨htree, -, -⟩ := Stock.mk.inj hw
  refine ⟨h.tree, h.force, fun other found hfound => ?_, h.upper, ?_⟩
  · rw [hput] at hfound
    rcases Entries.lookup_put_cases hfound with ⟨rfl, rfl⟩ | ⟨-, hfound⟩
    · exact ⟨g', hthere, hext⟩
    · exact h.lower other found hfound
  · rw [htree]
    exact h.ready

/-! ### Generators -/

theorem run_now (w : Workshop) : Work.now.run.run w = (.ok w, w) := rfl

theorem run_generator_of_some (h : w.generators.lookup name = some g) :
    (p.generator name).run.run w = (.ok g, w) := by
  unfold generator
  rw [run_bind, run_now]
  dsimp only
  rw [h]
  rfl

theorem run_generator_of_none (h : w.generators.lookup name = none) :
    (p.generator name).run.run w =
      match (Registry.standard.generator .null name (.settings p.settings)).run.run w.session with
      | (.ok g, s) => (.ok g, { w with session := s, generators := w.generators.put name g })
      | (.error f, s) => (.error f, { w with session := s }) := by
  unfold generator
  rw [run_bind, run_now]
  dsimp only
  rw [h]
  dsimp only
  rw [run_bind, run_liftRun]
  rcases (Registry.standard.generator .null name (.settings p.settings)).run.run w.session with
    ⟨_ | _, s⟩ <;> rfl

/-- A generator that is asked for was there, or it is made and put. -/
theorem generator_cases (h : (p.generator name).run.run w = (.ok g, w₁)) :
    (w.generators.lookup name = some g ∧ w₁ = w) ∨
      w.generators.lookup name = none ∧ w₁.generators = w.generators.put name g ∧
        ((Registry.standard.generator .null name (.settings p.settings)).run.run w.session).1 =
          .ok g := by
  cases hthere : w.generators.lookup name with
  | some found =>
      rw [run_generator_of_some hthere] at h
      obtain ⟨hg, rfl⟩ := Prod.mk.inj h
      exact .inl ⟨congrArg some (Except.ok.inj hg), rfl⟩
  | none =>
      rw [run_generator_of_none hthere] at h
      rcases hrun : (Registry.standard.generator .null name (.settings p.settings)).run.run
        w.session with ⟨r, s⟩
      rw [hrun] at h
      cases r with
      | error f => cases h
      | ok made =>
          obtain ⟨hg, rfl⟩ := Prod.mk.inj h
          obtain rfl := Except.ok.inj hg
          exact .inr ⟨rfl, rfl, rfl⟩

theorem exists_run_generator {s : Session} (hnone : v.generators.lookup name = none)
    (h : ((Registry.standard.generator .null name (.settings p.settings)).run.run s).1 = .ok g)
    (hlookup : ∀ d ∈ p.templateDirectories, ∃ there, v.session.tree.isDirectory d = .ok there) :
    ∃ g' v₁, (p.generator name).run.run v = (.ok g', v₁) := by
  obtain ⟨g', hg'⟩ := exists_made h hlookup
  rw [run_generator_of_none hnone]
  rcases hrun : (Registry.standard.generator .null name (.settings p.settings)).run.run
    v.session with ⟨r, s'⟩
  rw [hrun] at hg'
  obtain rfl : r = .ok g' := hg'
  exact ⟨g', _, rfl⟩

/-- A generator that both runs make, so that the pipeline of the second one is a new one. -/
theorem generator_made_again (hsound : w.Sound p start) (hstock : w₁.stock = w.stock)
    (hput : w₁.generators = w.generators.put name g)
    (hmade : ((Registry.standard.generator .null name (.settings p.settings)).run.run w.session).1 =
      .ok g) (hleads : w₁.Leads p final) (hbetween : Between p w v final)
    (hnone : v.generators.lookup name = none) :
    ∃ g' v₁, (p.generator name).run.run v = (.ok g', v₁) ∧
      v₁.generators.lookup name = some g' ∧ Between p w₁ v₁ final := by
  have hnew := made_of_run hmade
  obtain ⟨last, hlast, hext, hdirectories⟩ := hleads.generators name g (by
    rw [hput]
    exact Entries.lookup_put_self ..)
  have hforeseen : ∀ d ∈ p.templateDirectories, Foreseen w.session.tree v.session.tree d := by
    rw [hbetween.tree]
    refine hbetween.ready.resolve_left fun hready => ?_
    rw [hready name hnone] at hlast
    cases hlast
  obtain ⟨g', v₁, hrun⟩ := exists_run_generator hnone hmade (hnew.exists_isDirectory hforeseen)
  have hstock' : v₁.stock = v.stock := by
    have hkept := retains_generator p name v
    rwa [hrun] at hkept
  rcases generator_cases hrun with ⟨hthere, -⟩ | ⟨-, hput', hmade'⟩
  · rw [hnone] at hthere
    cases hthere
  · have hnew' := made_of_run hmade'
    have htree : w₁.session.tree = w.session.tree := (Stock.mk.inj hstock).1
    have hevolves : w.session.tree.Evolves p.templateDirectories v.session.tree := by
      rw [hbetween.tree, ← htree]
      exact hleads.tree
    refine ⟨g', v₁, hrun, by rw [hput']; exact Entries.lookup_put_self .., ?_⟩
    refine hbetween.put hstock hput hstock' hput' (hnew.extends_made hnew') hlast
      ((hnew'.extends_made hnew).trans hext) ?_
    rw [← hbetween.tree]
    exact hnew.serves hnew' hsound.wellFormed hevolves hforeseen hdirectories

/-- **A generator that the first run has, the second one has as well**, in between. -/
theorem generator_again (hsound : w.Sound p start)
    (hrun : (p.generator name).run.run w = (.ok g, w₁)) :
    w₁.Sound p start ∧ w.Leads p w₁ ∧ w₁.generators.lookup name = some g ∧
      ∀ final v, w₁.Leads p final → Between p w v final →
        ∃ g' v₁, (p.generator name).run.run v = (.ok g', v₁) ∧
          v₁.generators.lookup name = some g' ∧ Between p w₁ v₁ final := by
  have hstock : w₁.stock = w.stock := by
    have hkept := retains_generator p name w
    rwa [hrun] at hkept
  rcases generator_cases hrun with ⟨hthere, rfl⟩ | ⟨hnone, hput, hmade⟩
  · refine ⟨hsound, .refl _, hthere, fun final v _ hbetween => ?_⟩
    obtain ⟨g', hg', -⟩ := hbetween.lower name g hthere
    exact ⟨g', v, run_generator_of_some hg', hg', hbetween⟩
  · have hnew := made_of_run hmade
    have hthere : w₁.generators.lookup name = some g := by
      rw [hput]
      exact Entries.lookup_put_self ..
    refine ⟨hsound.put hstock hput hnew.sound, .put hstock hput (by simp [hnone]), hthere,
      fun final v hleads hbetween => ?_⟩
    obtain ⟨last, hlast, hext, -⟩ := hleads.generators name g hthere
    cases hv : v.generators.lookup name with
    | some g' =>
        obtain ⟨last', hlast', hext', -⟩ := hbetween.upper name g' hv
        obtain rfl := Option.some.inj (hlast.symm.trans hlast')
        exact ⟨g', v, run_generator_of_some hv, hv,
          hbetween.put_lower hstock hput hv (hnew.extends_of hext hext')⟩
    | none => exact generator_made_again hsound hstock hput hmade hleads hbetween hv

/-! ### Computations that are repeated -/

/-- A computation comes to the same from everywhere, and changes neither files nor generators. -/
def Idle (x : Work α) (r : Except Fault α) : Prop :=
  ∀ w, ∃ w', x.run.run w = (r, w') ∧ w'.stock = w.stock ∧ w'.generators = w.generators

theorem idle_lift (x : Except Fault α) : Idle (liftM x) x := fun w => ⟨w, rfl, rfl, rfl⟩

theorem idle_liftMisuse (x : Except Misuse α) : Idle (liftM x) (x.mapError .misuse) :=
  fun w => ⟨w, rfl, rfl, rfl⟩

theorem idle_record (severity : Severity) (texts : List String) :
    Idle (liftM (Run.record severity texts)) (.ok ()) :=
  fun w => ⟨_, run_liftRun _ w, retains_ofRun (retains_record severity texts) w, rfl⟩

/-- A computation can be repeated: if it succeeds in the first run, and well, then it leads on, and
the other computation succeeds in the second run, and stays between. -/
def Repeats (p : Pipeline) (start : FileTree) (x : Work α) (y : Work β) (Good : α → Prop)
    (again : α → β) : Prop :=
  ∀ w a w₁, x.run.run w = (.ok a, w₁) → w.Sound p start → Good a →
    w₁.Sound p start ∧ w.Leads p w₁ ∧
      ∀ final v, final.Sound p start → w₁.Leads p final → Between p w v final →
        ∃ v₁, y.run.run v = (.ok (again a), v₁) ∧ Between p w₁ v₁ final

namespace Repeats

variable {Good : α → Prop} {Good' : β → Prop}

theorem idle {x : Work α} {r : Except Fault α} (h : Idle x r) : Repeats p start x x Good id := by
  intro w a w₁ hrun hsound _
  obtain ⟨w', hrun', hstock, hgenerators⟩ := h w
  obtain ⟨rfl, rfl⟩ := Prod.mk.inj (hrun'.symm.trans hrun)
  have hleads := Workshop.Leads.of_stock (p := p) hstock hgenerators
  refine ⟨hsound.of_stock hstock (hgenerators ▸ hsound.generators), hleads,
    fun final v _ hlater hbetween => ?_⟩
  obtain ⟨v', hrun'', hstock', hgenerators'⟩ := h v
  exact ⟨v', hrun'', hbetween.of_stock hleads.tree.grows hlater.tree.grows hgenerators hstock'
    hgenerators'⟩

/-- What fails, or does not succeed well, need not be repeated. -/
theorem of_not {x : Work α} {y : Work β} {again : α → β} (h : Yields x fun a => ¬ Good a) :
    Repeats p start x y Good again :=
  fun w a w₁ hrun _ hgood => absurd hgood (h w a w₁ hrun)

theorem pure (a : α) (again : α → β) :
    Repeats p start (pure a) (Pure.pure (again a)) Good again := by
  rintro w b w₁ ⟨⟩ hsound _
  exact ⟨hsound, .refl _, fun final v _ _ hbetween => ⟨v, rfl, hbetween⟩⟩

/-- **A sequence is repeated step by step.** -/
theorem bind {x : Work α} {y : Work γ} {f : α → Work β} {f' : γ → Work δ} {again : α → γ}
    {again' : β → δ} {Q : α → Prop} (hx : Repeats p start x y Good again) (hyields : Yields x Q)
    (hgood : ∀ a, Q a → Yields (f a) fun b => Good' b → Good a)
    (hf : ∀ a, Q a → Repeats p start (f a) (f' (again a)) Good' again') :
    Repeats p start (x >>= f) (y >>= f') Good' again' := by
  intro w b w₂ hrun hsound hb
  obtain ⟨a, w₁, hfirst, hsecond⟩ := run_bind_eq_ok hrun
  have hQ := hyields w a w₁ hfirst
  obtain ⟨hsound₁, hleads₁, hagain₁⟩ :=
    hx w a w₁ hfirst hsound (hgood a hQ w₁ b w₂ hsecond hb)
  obtain ⟨hsound₂, hleads₂, hagain₂⟩ := hf a hQ w₁ b w₂ hsecond hsound₁ hb
  refine ⟨hsound₂, hleads₁.trans hleads₂, fun final v hfinal hlater hbetween => ?_⟩
  obtain ⟨v₁, hrun₁, hbetween₁⟩ := hagain₁ final v hfinal (hleads₂.trans hlater) hbetween
  obtain ⟨v₂, hrun₂, hbetween₂⟩ := hagain₂ final v₁ hfinal hlater hbetween₁
  refine ⟨v₂, ?_, hbetween₂⟩
  rw [run_bind, hrun₁]
  exact hrun₂

/-- The first step may succeed in any way, and comes to the same. -/
theorem bind_same {x : Work α} {f : α → Work β} {f' : α → Work δ} {again' : β → δ} {Q : α → Prop}
    (hx : Repeats p start x x (fun _ => True) id) (hyields : Yields x Q)
    (hf : ∀ a, Q a → Repeats p start (f a) (f' a) Good' again') :
    Repeats p start (x >>= f) (x >>= f') Good' again' :=
  hx.bind hyields (fun _ _ _ _ _ _ _ => trivial) hf

/-- The first step is idle. -/
theorem bind_idle {x : Work α} {r : Except Fault α} {f : α → Work β} {f' : α → Work δ}
    {again' : β → δ} (hx : Idle x r) (hf : ∀ a, Repeats p start (f a) (f' a) Good' again') :
    Repeats p start (x >>= f) (x >>= f') Good' again' :=
  bind_same (Q := fun _ => True) (idle hx) (fun _ _ _ _ => trivial) fun a _ => hf a

/-- **A loop is repeated step by step.** -/
theorem mapM {f : γ → Work α} {f' : γ → Work β} {again : α → β} {cs : List γ}
    (h : ∀ c ∈ cs, Repeats p start (f c) (f' c) Good again) :
    Repeats p start (cs.mapM f) (cs.mapM f') (fun as => ∀ a ∈ as, Good a) (List.map again) := by
  induction cs with
  | nil =>
      rw [List.mapM_nil, List.mapM_nil]
      exact pure [] (List.map again)
  | cons c cs ih =>
      have ih := ih fun d hd => h d (List.mem_cons_of_mem _ hd)
      have hreturn : ∀ a : α, Yields (cs.mapM f >>= fun as => Pure.pure (a :: as))
          fun bs => (∀ b ∈ bs, Good b) → Good a := fun a =>
        Yields.bind_any fun as => .pure fun hgood => hgood a (List.mem_cons_self ..)
      rw [List.mapM_cons, List.mapM_cons]
      refine (h c (List.mem_cons_self ..)).bind (Q := fun _ => True) (fun _ _ _ _ => trivial)
        (fun a _ => hreturn a) fun a _ => ?_
      refine ih.bind (Q := fun _ => True) (fun _ _ _ _ => trivial) (fun as _ => ?_) fun as _ => ?_
      · exact .pure fun hgood b hb => hgood b (List.mem_cons_of_mem _ hb)
      · exact pure (a :: as) (List.map again)

/-- A loop whose steps come to the same comes to the same. -/
theorem mapM_same {f : γ → Work α} {cs : List γ}
    (h : ∀ c ∈ cs, Repeats p start (f c) (f c) (fun _ => True) id) :
    Repeats p start (cs.mapM f) (cs.mapM f) (fun _ => True) id := by
  have hloop := mapM h
  simp only [implies_true, List.map_id_fun] at hloop
  exact hloop

end Repeats

/-! ### Texts -/

/-- What rendering a file with a generator comes to. -/
theorem run_render {a : Artifact} {m : Model}
    (h : (p.generator a.component.name).run.run w = (.ok g, w')) : ∃ w₁,
    (p.render (.artifact a m)).run.run w =
        ((g.generateFile w'.session.tree m a).text.map Datum.text, w₁) ∧
      w₁.stock = w'.stock ∧
      w₁.generators =
        w'.generators.put a.component.name (g.generateFile w'.session.tree m a).next := by
  unfold render
  dsimp only
  rw [run_bind, h]
  dsimp only
  rw [run_bind, run_tree]
  dsimp only
  -- The warnings are logged, which changes neither files nor answers.
  let warnings := (g.generateFile w'.session.tree m a).warnings
  let logged := ((Run.record .warning warnings).run.run w'.session).2
  obtain ⟨htree, hanswers⟩ := Prod.mk.inj (retains_record .warning warnings w'.session)
  have hstock : Stock.mk logged.tree logged.answers w'.force = w'.stock := by
    rw [htree, hanswers]
    rfl
  rw [run_bind, run_liftRun]
  change ∃ w₁, ((Work.change _ >>= _ : Work Datum).run.run _) = _ ∧ _
  rw [run_bind]
  cases (g.generateFile w'.session.tree m a).text with
  | error f => exact ⟨_, rfl, hstock, rfl⟩
  | ok text => exact ⟨_, rfl, hstock, rfl⟩

/-- **What was rendered is rendered again**, to the same text. -/
theorem repeats_render (source : Source) :
    Repeats p start (p.render source) (p.render source) (fun _ => True) id := by
  cases source with
  | given content => exact .pure content id
  | fails reason => exact .of_not (.throw _)
  | artifact a m =>
      intro w content w₁ hrun hsound _
      obtain ⟨g, w', hgenerator, -⟩ := run_bind_eq_ok hrun
      obtain ⟨hsound', hleads', hthere, hagain⟩ := generator_again hsound hgenerator
      obtain ⟨w₂, hrender, hstock, hput⟩ := run_render (m := m) hgenerator
      obtain ⟨hcontent, rfl⟩ := Prod.mk.inj (hrender.symm.trans hrun)
      cases htext : (g.generateFile w'.session.tree m a).text with
      | error f =>
          rw [htext] at hcontent
          cases hcontent
      | ok text =>
          rw [htext] at hcontent
          obtain rfl := Except.ok.inj hcontent
          have hg := hsound'.generators _ g hthere
          obtain ⟨hnext, hext, hdirectories⟩ := Generator.generateFile_extends hg htext
          have hleads : w'.Leads p w₂ := by
            refine .put hstock hput fun old hold => ?_
            obtain rfl := Option.some.inj (hthere.symm.trans hold)
            exact ⟨hext, hdirectories⟩
          refine ⟨hsound'.put hstock hput hnext, hleads'.trans hleads,
            fun final v hfinal hlater hbetween => ?_⟩
          obtain ⟨g', v', hgenerator', hthere', hbetween'⟩ :=
            hagain final v (hleads.trans hlater) hbetween
          obtain ⟨v₁, hrender', hstock', hput'⟩ := run_render (m := m) hgenerator'
          obtain ⟨found, hfound, hlower⟩ := hbetween'.lower _ g hthere
          obtain rfl := Option.some.inj (hthere'.symm.trans hfound)
          obtain ⟨last, hlast, hupper, hserves⟩ := hbetween'.upper _ g' hthere'
          obtain ⟨last', hlast', hlaterG, hlastDirectories⟩ := hlater.generators _ _
            (by rw [hput]; exact Entries.lookup_put_self ..)
          obtain rfl := Option.some.inj (hlast.symm.trans hlast')
          obtain ⟨htext', hext₁, hext₂, hsame⟩ := Generator.generateFile_again hg
            hsound'.wellFormed (hleads.trans hlater).tree htext (hfinal.generators _ last hlast)
            hlaterG (hlastDirectories.trans hdirectories) hlower hupper hserves
          rw [← hbetween'.tree] at htext' hext₁ hext₂ hsame
          refine ⟨v₁, ?_, ?_⟩
          · rw [hrender', htext']
            rfl
          · refine hbetween'.put hstock hput hstock' hput' hext₁ hlast hext₂ ?_
            unfold Library.Serves at hserves ⊢
            rwa [hsame]

/-! ### Files -/

/-- A planned file is one of Dart. -/
def Planned.IsDart (f : Planned) : Prop :=
  ∃ name, (Path.ofString f.path).names.getLast? = some name ∧ ".dart".toList <:+ name.toList

theorem isDart_target {f : Planned} (h : f.IsDart) (tree : FileTree) :
    FileTree.IsDart (tree.target (Path.ofString f.path)) := by
  obtain ⟨name, hname, hdart⟩ := h
  obtain ⟨before, hnames⟩ := List.getLast?_eq_some_iff.1 hname
  have hdots : name ≠ ".." := by
    rintro rfl
    exact absurd hdart (by decide)
  refine ⟨name, ?_, hdart⟩
  unfold FileTree.target
  rw [hnames, List.foldl_append, List.foldl_cons, List.foldl_nil, FileTree.enter, if_neg hdots,
    List.getLast?_concat]

/-- A file of Dart is added, or nothing changes in the directories that are looked into. -/
theorem Settles.evolves {k : Stock} {path : Path} {rendered : Except Fault Datum} {status : Status}
    {directories : List Path} (h : Settles p k path rendered status tree) (hrefuses : k.Refuses p)
    (hwf : k.tree.WellFormed) (hdart : FileTree.IsDart (k.tree.target path))
    (hsteady : status = .written → (∃ d ∈ directories, k.tree.target d <+: k.tree.target path) →
      k.tree.Steady path) : k.tree.Evolves directories tree := by
  by_cases hwritten : status = .written
  · subst hwritten
    obtain ⟨s, -, -, hcontent⟩ := h.contentAt?_written
    refine ⟨h.grows, fun loc content hinside hc => ?_, fun loc content hc hnone => ?_⟩
    · have hne : loc ≠ k.tree.target path := by
        rintro rfl
        have hnew := h.isNew hrefuses hwf (hsteady rfl hinside)
        rw [FileTree.contentAt?_eq_none hnew] at hc
        cases hc
      rw [hcontent, Function.update_of_ne hne, hc]
    · by_cases heq : loc = k.tree.target path
      · rwa [heq]
      · rw [hcontent, Function.update_of_ne heq, hnone] at hc
        cases hc
  · have hsame := h.contentAt?_of_ne hwritten
    refine ⟨h.grows, fun loc content _ hc => ?_, fun loc content hc hnone => ?_⟩
    · rw [hsame, hc]
    · rw [hsame, hnone] at hc
      cases hc

/-- The result of a file that is there already. -/
def FileResult.again (r : FileResult) : FileResult := { r with status := .skipped }

/-- A file did not fail, and if it was written into the directory of templates, then along a steady
path. -/
structure Settled (p : Pipeline) (start : FileTree) (r : FileResult) : Prop where
  ok : r.status ≠ .failed
  steady : r.status = .written →
    (∃ d ∈ p.templateDirectories, start.target d <+: start.target (Path.ofString r.path)) →
    start.Steady (Path.ofString r.path)

theorem run_execute_of_ok {f : Planned} {status : Status}
    (h : (p.render f.source >>= p.write f.path).run.run w = (.ok status, w')) :
    (p.execute f).run.run w = (.ok ⟨f.path, status, f.component, f.model, ""⟩, w') := by
  have hattempt : (p.execute f).run.run w = _ := run_bind_attempt _ _ w
  rw [hattempt, h]
  rfl

/-- A file that did not fail was rendered, and written or skipped. -/
theorem execute_eq_ok {f : Planned} {r : FileResult}
    (h : (p.execute f).run.run w = (.ok r, w')) (hne : r.status ≠ .failed) :
    ∃ content w₁ status, (p.render f.source).run.run w = (.ok content, w₁) ∧
      (p.write f.path content).run.run w₁ = (.ok status, w') ∧
      r = ⟨f.path, status, f.component, f.model, ""⟩ := by
  rcases hrun : (p.render f.source >>= p.write f.path).run.run w with ⟨result, w''⟩
  cases result with
  | error fault =>
      obtain ⟨r', w₁, hrun', hstatus, -⟩ := run_execute p f w
      obtain ⟨hr, -⟩ := Prod.mk.inj (hrun'.symm.trans h)
      rw [hrun, Except.ok.inj hr] at hstatus
      exact absurd hstatus hne
  | ok status =>
      obtain ⟨hr, rfl⟩ := Prod.mk.inj ((run_execute_of_ok hrun).symm.trans h)
      obtain ⟨content, w₁, hrender, hwrite⟩ := run_bind_eq_ok hrun
      exact ⟨content, w₁, status, hrender, hwrite, (Except.ok.inj hr).symm⟩

/-- A file that is there is skipped, if nobody can be asked. -/
theorem run_write_of_there (hquestion : p.question = none) (hforce : v.force = false)
    {file : String} (hthere : v.session.tree.pathExists (Path.ofString file) = .ok true)
    (content : Datum) : (p.write file content).run.run v = (.ok .skipped, v) := by
  rw [write_eq, run_bind, run_mayWrite, hthere, hquestion, hforce]
  rfl

/-- **A planned file that did not fail is skipped the second time.** -/
theorem repeats_execute (hquestion : p.question = none) {f : Planned} (hdart : f.IsDart) :
    Repeats p start (p.execute f) (p.execute f) (Settled p start) FileResult.again := by
  intro w r w₁ hrun hsound hsettled
  obtain ⟨content, w', status, hrender, hwrite, rfl⟩ := execute_eq_ok hrun hsettled.ok
  obtain ⟨hsound', hleads', hagain⟩ := repeats_render f.source w content w' hrender hsound trivial
  obtain ⟨status', w₂, hwrite', hsettles, hforce, hgenerators, -⟩ :=
    write_cases p f.path content w'
  obtain ⟨rfl, rfl⟩ := Prod.mk.inj (hwrite.symm.trans hwrite')
  have hevolves : w'.session.tree.Evolves p.templateDirectories w₁.session.tree := by
    refine hsettles.evolves ⟨hsound'.force, .inl hquestion⟩ hsound'.wellFormed
      (isDart_target hdart _) fun hwritten hinside => ?_
    refine (hsettled.steady hwritten ?_).grows hsound'.grows
    obtain ⟨d, hd, hprefix⟩ := hinside
    change w'.session.tree.target d <+: w'.session.tree.target (Path.ofString f.path) at hprefix
    rw [hsound'.grows.target, hsound'.grows.target] at hprefix
    exact ⟨d, hd, hprefix⟩
  have hleads : w'.Leads p w₁ :=
    ⟨hevolves, fun name g hg => ⟨g, by rw [hgenerators]; exact hg, .refl g, rfl⟩⟩
  refine ⟨⟨hsound'.grows.trans hsettles.grows, hsettles.wellFormed hsound'.wellFormed,
    hforce.trans hsound'.force, fun name g hg => ?_⟩, hleads'.trans hleads, ?_⟩
  · rw [hgenerators] at hg
    exact (hsound'.generators name g hg).evolves hevolves
  · intro final v hfinal hlater hbetween
    obtain ⟨v', hrender', hbetween'⟩ := hagain final v hfinal (hleads.trans hlater) hbetween
    have hthere : v'.session.tree.pathExists (Path.ofString f.path) = .ok true := by
      rw [hbetween'.tree]
      exact hlater.tree.grows.pathExists (hsettles.pathExists hsettled.ok)
    refine ⟨v', run_execute_of_ok ?_, ?_⟩
    · rw [run_bind, hrender']
      exact run_write_of_there hquestion hbetween'.force hthere content
    · exact hbetween'.of_stock hevolves.grows hlater.tree.grows hgenerators rfl rfl

end DartScaffold.Pipeline
