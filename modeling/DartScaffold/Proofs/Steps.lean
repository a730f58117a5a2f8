/-
**Computations step by step.**

Runs and works are computations on a state that may end in a fault.  A fault keeps the state that
was reached, and what follows it is left out.  So what a sequence of two computations gives is read
off from what the first one gives.

Main definitions:

* `Yields` — whatever a computation gives has a property;
* `Session.warned` — a session in which warnings were logged.

Main results:

* `run_bind` — what a sequence of two computations gives;
* `run_bind_eq_ok` — a sequence that succeeds consists of two that do;
* `Yields.bind`, `Yields.mapM`, `Yields.mapM_uses` — what sequences and loops give;
* `exists_mapM_ok`, `exists_mapM_ok_both`, `mapM_eq_ok` — a loop whose steps succeed does so;
* `exists_of_bind_eq_ok`, `forall₂_of_mapM` — what uses that succeed consist of;
* `liftM_ok`, `Datum.memberFor_object`, `Datum.asSet_cases` — values that are used.
-/

import Mathlib
import DartScaffold.Datum.Use
import DartScaffold.Session

set_option relaxedAutoImplicit false
set_option autoImplicit false

namespace DartScaffold

variable {σ α β : Type}

/-- What a sequence of two computations gives. -/
theorem run_bind (x : ExceptT Fault (StateM σ) α) (f : α → ExceptT Fault (StateM σ) β) (s : σ) :
    (x >>= f).run.run s =
      match x.run.run s with
      | (.ok a, s') => (f a).run.run s'
      | (.error e, s') => (.error e, s') := by
  show (ExceptT.bind x f).run.run s = _
  simp only [ExceptT.bind, ExceptT.run, ExceptT.mk, ExceptT.bindCont, StateT.run, bind,
    StateT.bind]
  rcases x s with ⟨r, s'⟩
  cases r <;> rfl

/-- A sequence that succeeds consists of two computations that do. -/
theorem run_bind_eq_ok {x : ExceptT Fault (StateM σ) α} {f : α → ExceptT Fault (StateM σ) β}
    {s s'' : σ} {b : β} (h : (x >>= f).run.run s = (.ok b, s'')) :
    ∃ a s', x.run.run s = (.ok a, s') ∧ (f a).run.run s' = (.ok b, s'') := by
  rw [run_bind] at h
  rcases hx : x.run.run s with ⟨r, s'⟩
  rw [hx] at h
  cases r with
  | error e => exact absurd (Prod.mk.inj h).1 (by simp)
  | ok a => exact ⟨a, s', rfl, h⟩

/-- What a computation gives, with the state that it leaves behind. -/
theorem run_of_fst {x : ExceptT Fault (StateM σ) α} {s : σ} {a : α}
    (h : (x.run.run s).1 = .ok a) : x.run.run s = (.ok a, (x.run.run s).2) :=
  Prod.ext h rfl

/-- What a computation gives, found by looking at it. -/
theorem run_of_isOk [BEq α] [LawfulBEq α] {x : ExceptT Fault (StateM σ) α} {s : σ} {a : α}
    (h : (match (x.run.run s).1 with | .ok b => b == a | .error _ => false) = true) :
    x.run.run s = (.ok a, (x.run.run s).2) := by
  refine run_of_fst ?_
  cases hresult : (x.run.run s).1 with
  | error f =>
      rw [hresult] at h
      cases h
  | ok b =>
      rw [hresult] at h
      rw [beq_iff_eq.1 h]

/-- What a loop gives whose first step succeeds and so does the rest. -/
theorem run_mapM_cons {f : α → ExceptT Fault (StateM σ) β} {a : α} {as : List α} {b : β}
    {bs : List β} {s s' s'' : σ} (ha : (f a).run.run s = (.ok b, s'))
    (has : (as.mapM f).run.run s' = (.ok bs, s'')) :
    ((a :: as).mapM f).run.run s = (.ok (b :: bs), s'') := by
  rw [List.mapM_cons, run_bind, ha]
  show ((as.mapM f) >>= _).run.run s' = _
  rw [run_bind, has]
  rfl

/-- A loop depends on what its steps do at the members only. -/
theorem mapM_congr_left {f g : α → ExceptT Fault (StateM σ) β} {as : List α}
    (h : ∀ a ∈ as, f a = g a) : as.mapM f = as.mapM g := by
  induction as with
  | nil => rw [List.mapM_nil, List.mapM_nil]
  | cons a as ih =>
      rw [List.mapM_cons, List.mapM_cons, h a (List.mem_cons_self ..),
        ih fun b hb => h b (List.mem_cons_of_mem _ hb)]

/-! ### What computations give -/

/-- Whatever a computation gives, it has a property. -/
def Yields (x : ExceptT Fault (StateM σ) α) (P : α → Prop) : Prop :=
  ∀ s a s', x.run.run s = (.ok a, s') → P a

namespace Yields

variable {P : α → Prop}

theorem pure {a : α} (h : P a) : Yields (pure a : ExceptT Fault (StateM σ) α) P := by
  rintro s b s' ⟨⟩
  exact h

/-- A fault gives nothing. -/
theorem throw (f : Fault) : Yields (throw f : ExceptT Fault (StateM σ) α) P := by
  rintro s a s' ⟨⟩

/-- What a sequence gives may use what its first step gives. -/
theorem bind {Q : β → Prop} {x : ExceptT Fault (StateM σ) β} {f : β → ExceptT Fault (StateM σ) α}
    (hx : Yields x Q) (hf : ∀ b, Q b → Yields (f b) P) : Yields (x >>= f) P := by
  intro s a s'' h
  obtain ⟨b, s', hb, ha⟩ := run_bind_eq_ok h
  exact hf b (hx s b s' hb) s' a s'' ha

/-- What a sequence gives if it does not matter what its first step does. -/
theorem bind_any {x : ExceptT Fault (StateM σ) β} {f : β → ExceptT Fault (StateM σ) α}
    (hf : ∀ b, Yields (f b) P) : Yields (x >>= f) P :=
  bind (Q := fun _ => True) (fun _ _ _ _ => trivial) fun b _ => hf b

theorem mapM {f : β → ExceptT Fault (StateM σ) α} {bs : List β} (h : ∀ b ∈ bs, Yields (f b) P) :
    Yields (bs.mapM f) fun as => ∀ a ∈ as, P a := by
  induction bs with
  | nil =>
      rw [List.mapM_nil]
      exact pure (by simp)
  | cons b bs ih =>
      rw [List.mapM_cons]
      refine bind (h b (List.mem_cons_self ..)) fun a ha => ?_
      refine bind (ih fun c hc => h c (List.mem_cons_of_mem _ hc)) fun as has => pure ?_
      intro c hc
      rcases List.mem_cons.1 hc with rfl | hc
      · exact ha
      · exact has c hc

/-- What a loop gives is related to what it goes through, step by step. -/
theorem mapM_forall₂ {f : β → ExceptT Fault (StateM σ) α} {R : β → α → Prop} {bs : List β}
    (h : ∀ b ∈ bs, Yields (f b) (R b)) : Yields (bs.mapM f) (List.Forall₂ R bs) := by
  induction bs with
  | nil =>
      rw [List.mapM_nil]
      exact pure .nil
  | cons b bs ih =>
      rw [List.mapM_cons]
      refine bind (h b (List.mem_cons_self ..)) fun a ha => ?_
      exact bind (ih fun c hc => h c (List.mem_cons_of_mem _ hc)) fun as has => pure (.cons ha has)

/-- A use gives the same in a computation as alone. -/
theorem liftMisuse (x : Except Misuse α) :
    Yields (liftM x : ExceptT Fault (StateM σ) α) fun a => x = .ok a := by
  intro s a s' h
  cases x with
  | error f => cases h
  | ok b =>
      cases h
      rfl

/-- So does whatever may end in a fault. -/
theorem liftFault (x : Except Fault α) :
    Yields (liftM x : ExceptT Fault (StateM σ) α) fun a => x = .ok a := by
  intro s a s' h
  cases x with
  | error f => cases h
  | ok b =>
      cases h
      rfl

/-- A loop whose steps give what uses give alone. -/
theorem mapM_uses {f : β → ExceptT Fault (StateM σ) α} {g : β → Except Misuse α} {bs : List β}
    (h : ∀ b ∈ bs, Yields (f b) fun a => g b = .ok a) :
    Yields (bs.mapM f) fun as => bs.mapM g = .ok as := by
  induction bs with
  | nil =>
      rw [List.mapM_nil]
      exact pure rfl
  | cons b bs ih =>
      rw [List.mapM_cons]
      refine bind (h b (List.mem_cons_self ..)) fun a ha => ?_
      refine bind (ih fun c hc => h c (List.mem_cons_of_mem _ hc)) fun as has => pure ?_
      rw [List.mapM_cons, ha, has]
      rfl

end Yields

/-! ### Warnings -/

/-- The session in which warnings were logged, if the log keeps them. -/
def Session.warned (s : Session) (texts : List String) : Session :=
  if Severity.warning.reaches s.threshold then
    { s with log := s.log ++ texts.map fun t => ⟨.warning, t⟩ }
  else s

theorem Session.warned_nil (s : Session) : s.warned [] = s := by
  rw [Session.warned, List.map_nil, List.append_nil, ite_self]

theorem Session.warned_append (s : Session) (texts more : List String) :
    (s.warned texts).warned more = s.warned (texts ++ more) := by
  by_cases h : Severity.warning.reaches s.threshold = true
  · simp [Session.warned, h]
  · simp [Session.warned, h]

/-- Logging warnings leaves the session in which they were logged. -/
theorem run_warnAll (texts : List String) (s : Session) :
    (Run.warnAll texts).run.run s = (.ok (), s.warned texts) := rfl

/-! ### Values that are used -/

/-- A use that gives a value gives it in the run, too. -/
theorem liftM_ok {α : Type} (a : α) :
    (liftM (Except.ok a : Except Misuse α) : Except Fault α) = .ok a := rfl

/-- And a value that it gives in the run it gives alone. -/
theorem eq_ok_of_liftM {α : Type} {x : Except Misuse α} {a : α}
    (h : (liftM x : Except Fault α) = .ok a) : x = .ok a := by
  cases x with
  | error m => cases h
  | ok b => exact congrArg Except.ok (Except.ok.inj h)

/-- A loop whose steps give values of one kind gives a list of them. -/
theorem exists_mapM_ok {ε : Type} {f : α → Except ε β} {P : β → Prop} {as : List α}
    (h : ∀ a ∈ as, ∃ b, f a = .ok b ∧ P b) : ∃ bs, as.mapM f = .ok bs ∧ ∀ b ∈ bs, P b := by
  induction as with
  | nil => exact ⟨[], rfl, by simp⟩
  | cons a as ih =>
      obtain ⟨b, hb, hPb⟩ := h a (List.mem_cons_self ..)
      obtain ⟨bs, hbs, hPbs⟩ := ih fun c hc => h c (List.mem_cons_of_mem _ hc)
      refine ⟨b :: bs, ?_, ?_⟩
      · rw [List.mapM_cons, hb, hbs]
        rfl
      · intro c hc
        rcases List.mem_cons.1 hc with rfl | hc
        · exact hPb
        · exact hPbs c hc

/-- Two loops over the same items whose steps succeed do so. -/
theorem exists_mapM_ok_both {ε γ : Type} {f : α → Except ε β} {f' : α → Except ε γ}
    {P : β → γ → Prop} {as : List α}
    (h : ∀ a ∈ as, ∃ b c, f a = .ok b ∧ f' a = .ok c ∧ P b c) :
    ∃ bs : List (β × γ), as.mapM f = .ok (bs.map Prod.fst) ∧
      as.mapM f' = .ok (bs.map Prod.snd) ∧ ∀ b ∈ bs, P b.1 b.2 := by
  induction as with
  | nil => exact ⟨[], rfl, rfl, List.forall_mem_nil _⟩
  | cons a as ih =>
      obtain ⟨b, c, hb, hc, hP⟩ := h a (List.mem_cons_self ..)
      obtain ⟨bs, hbs, hcs, hPs⟩ := ih fun d hd => h d (List.mem_cons_of_mem _ hd)
      refine ⟨(b, c) :: bs, ?_, ?_, List.forall_mem_cons.2 ⟨hP, hPs⟩⟩
      · rw [List.mapM_cons, hb, hbs]
        rfl
      · rw [List.mapM_cons, hc, hcs]
        rfl

/-- A loop whose steps give known values gives the list of them. -/
theorem mapM_eq_ok {ε : Type} {f : α → Except ε β} {g : α → β} {as : List α}
    (h : ∀ a ∈ as, f a = .ok (g a)) : as.mapM f = .ok (as.map g) := by
  induction as with
  | nil => rfl
  | cons a as ih =>
      rw [List.mapM_cons, h a (List.mem_cons_self ..),
        ih fun b hb => h b (List.mem_cons_of_mem _ hb)]
      rfl

/-- A sequence of uses that succeeds consists of two that do. -/
theorem exists_of_bind_eq_ok {ε : Type} {x : Except ε α} {f : α → Except ε β} {b : β}
    (h : x >>= f = .ok b) : ∃ a, x = .ok a ∧ f a = .ok b := by
  cases x with
  | error e => cases h
  | ok a => exact ⟨a, rfl, h⟩

/-- A loop that succeeds gives what its steps give. -/
theorem forall₂_of_mapM {ε : Type} {f : α → Except ε β} {as : List α} {bs : List β}
    (h : as.mapM f = .ok bs) : List.Forall₂ (fun a b => f a = .ok b) as bs := by
  induction as generalizing bs with
  | nil =>
      obtain rfl : [] = bs := Except.ok.inj h
      exact .nil
  | cons a as ih =>
      rw [List.mapM_cons] at h
      obtain ⟨b, hb, hloop⟩ := exists_of_bind_eq_ok h
      obtain ⟨rest, hrest, hbs⟩ := exists_of_bind_eq_ok hloop
      obtain rfl : b :: rest = bs := Except.ok.inj hbs
      exact .cons hb (ih hrest)

/-- In lists that are related member by member each member has a related one. -/
theorem exists_of_forall₂ {R : α → β → Prop} {as : List α} {bs : List β}
    (h : List.Forall₂ R as bs) {a : α} (ha : a ∈ as) : ∃ b ∈ bs, R a b := by
  induction h with
  | nil => cases ha
  | @cons c d as bs hcd _ ih =>
      rcases List.mem_cons.1 ha with rfl | ha
      · exact ⟨d, List.mem_cons_self .., hcd⟩
      · obtain ⟨b, hb, hab⟩ := ih ha
        exact ⟨b, List.mem_cons_of_mem _ hb, hab⟩

/-- What is among the results of a loop was given by one of its steps. -/
theorem exists_of_mem_mapM {ε : Type} {f : α → Except ε β} {as : List α} {bs : List β} {b : β}
    (h : as.mapM f = .ok bs) (hb : b ∈ bs) : ∃ a ∈ as, f a = .ok b :=
  exists_of_forall₂ (forall₂_of_mapM h).flip hb

/-- Lists that are related member by member have the same images, if related members have. -/
theorem map_eq_of_forall₂ {γ : Type} {R : α → β → Prop} {f : α → γ} {g : β → γ} {as : List α}
    {bs : List β} (h : List.Forall₂ R as bs) (hfg : ∀ a b, R a b → g b = f a) :
    bs.map g = as.map f := by
  induction h with
  | nil => rfl
  | cons hab _ ih => rw [List.map_cons, List.map_cons, hfg _ _ hab, ih]

/-- An object gives the member of a name, or what stands for a missing one. -/
theorem Datum.memberFor_object (key : String) (members : List (String × Datum))
    (missing : Datum) :
    (Datum.object members).memberFor key missing = .ok ((members.lookup key).getD missing) := rfl

/-- Values are a set if each of them can be in one. -/
theorem Datum.asSet_cases (ds : List Datum) :
    (ds.all hashable = true ∧ ∃ found, asSet ds = .ok found) ∨
      (ds.all hashable = false ∧ ∃ m, asSet ds = .error m) := by
  unfold asSet
  cases hall : ds.all hashable with
  | true =>
      have hfind : ds.find? (fun d => !d.hashable) = none := by
        rw [List.find?_eq_none]
        intro d hd
        simpa using List.all_eq_true.1 hall d hd
      rw [hfind]
      exact .inl ⟨rfl, _, rfl⟩
  | false =>
      obtain ⟨d, hd, hflaw⟩ := List.all_eq_false.1 hall
      obtain ⟨e, he⟩ : ∃ e, ds.find? (fun d => !d.hashable) = some e := by
        rw [← Option.isSome_iff_exists, List.find?_isSome]
        exact ⟨d, hd, by simpa using hflaw⟩
      rw [he]
      exact .inr ⟨rfl, _, rfl⟩

/-- So are the items of a list, which may be empty. -/
theorem Datum.elementsOrNone_list (ds : List Datum) :
    (Datum.list ds).elementsOrNone = asSet ds := by
  cases ds <;> rfl

/-- Texts are a set. -/
theorem Datum.asSet_texts (ss : List String) : ∃ found, asSet (ss.map .text) = .ok found := by
  rcases asSet_cases (ss.map .text) with ⟨-, h⟩ | ⟨hflaw, -⟩
  · exact h
  · rw [List.all_map] at hflaw
    obtain ⟨s, -, hs⟩ := List.all_eq_false.1 hflaw
    exact absurd rfl hs

end DartScaffold
