/-
**What is remembered is answered as before.**

A generator remembers the names that it gave and the templates that it found.  It never forgets and
never changes its mind, so its memory only extends.  When the same requests are made once more, of a
generator that remembers some or all of what the first one came to remember in the end, each request
has the answer that it had the first time: if the first generator remembered it then, so does the
second one, and if neither did, both work it out alike; but if only the second one remembers it,
then from what the first one came to.  So what the second one remembers stays between what the first
one remembered at that time and what it remembered in the end.

Main definitions:

* `Entries.Extends`, `Naming.Names.Extends` — nothing is forgotten.

Main results:

* `Naming.Names.learn_between` — **what is learnt once more stays between** what was learnt the
  first time and the end;
* `Naming.Names.Extends.name_eq`, `Naming.Names.isSome_learn` — what was asked for is answered alike
  from then on.
-/

import Mathlib
import DartScaffold.Entries
import DartScaffold.Naming.Sanitizer

set_option relaxedAutoImplicit false
set_option autoImplicit false

namespace DartScaffold

/-! ### Entries -/

namespace Entries

variable {κ α : Type} [DecidableEq κ] {e e' e'' : Entries κ α} {key : κ} {value : α}

/-- What stands under a key was put there, or it has been there before. -/
theorem lookup_put_cases {other : κ} {found : α} (h : (e.put key value).lookup other = some found) :
    (other = key ∧ found = value) ∨ (other ≠ key ∧ e.lookup other = some found) := by
  by_cases heq : other = key
  · subst heq
    rw [lookup_put_self] at h
    exact .inl ⟨rfl, (Option.some.inj h).symm⟩
  · rw [lookup_put_of_ne heq] at h
    exact .inr ⟨heq, h⟩

/-- What stands under a key stays there. -/
def Extends (e e' : Entries κ α) : Prop :=
  ∀ key value, e.lookup key = some value → e'.lookup key = some value

theorem Extends.refl (e : Entries κ α) : e.Extends e := fun _ _ h => h

theorem Extends.trans (h : e.Extends e') (h' : e'.Extends e'') : e.Extends e'' :=
  fun key value hv => h' key value (h key value hv)

/-- What is not remembered later was not remembered before. -/
theorem Extends.lookup_eq_none (h : e.Extends e') (hnone : e'.lookup key = none) :
    e.lookup key = none := by
  rw [Option.eq_none_iff_forall_ne_some]
  intro value hv
  rw [h key value hv] at hnone
  cases hnone

/-- Writing what is not there, or is there already, forgets nothing. -/
theorem extends_put (h : ∀ other, e.lookup key = some other → other = value) :
    e.Extends (e.put key value) := by
  intro other found hfound
  by_cases heq : other = key
  · subst heq
    rw [lookup_put_self, h found hfound]
  · rwa [lookup_put_of_ne heq]

theorem Extends.put (h : e.Extends e') : (e.put key value).Extends (e'.put key value) := by
  intro other found hfound
  rcases lookup_put_cases hfound with ⟨rfl, rfl⟩ | ⟨hne, hfound⟩
  · exact lookup_put_self ..
  · rw [lookup_put_of_ne hne]
    exact h other found hfound

theorem Extends.put_left (h : e.Extends e') (hthere : e'.lookup key = some value) :
    (e.put key value).Extends e' := by
  intro other found hfound
  rcases lookup_put_cases hfound with ⟨rfl, rfl⟩ | ⟨-, hfound⟩
  · exact hthere
  · exact h other found hfound

end Entries

/-! ### Names -/

namespace Naming.Names

variable {n n' final : Names} {r : Request} {requests : List Request}

/-- The names that were given are given again. -/
structure Extends (n n' : Names) : Prop where
  sanitizer : n'.sanitizer = n.sanitizer
  memo : Entries.Extends n.memo n'.memo

theorem Extends.refl (n : Names) : n.Extends n := ⟨rfl, .refl _⟩

theorem Extends.trans {n'' : Names} (h : n.Extends n') (h' : n'.Extends n'') : n.Extends n'' :=
  ⟨h'.sanitizer.trans h.sanitizer, h.memo.trans h'.memo⟩

theorem extends_remember (n : Names) (r : Request) : n.Extends (n.remember r) := by
  refine ⟨rfl, Entries.extends_put fun name hname => ?_⟩
  rw [Names.name, hname]
  rfl

theorem extends_learn (n : Names) (requests : List Request) :
    n.Extends (requests.foldl remember n) := by
  induction requests generalizing n with
  | nil => exact .refl n
  | cons r rest ih => exact (extends_remember n r).trans (ih _)

theorem Extends.name_eq (h : n.Extends n') (hthere : (n.memo.lookup r.key).isSome) :
    n'.name r = n.name r := by
  obtain ⟨name, hname⟩ := Option.isSome_iff_exists.1 hthere
  rw [Names.name, Names.name, h.memo _ _ hname, hname]
  rfl

/-- Whoever remembers more, but nothing that does not come to be remembered, answers alike. -/
theorem name_eq_of_between (h : n.Extends n') (h' : n'.Extends final)
    (hlater : (n.remember r).Extends final) : n'.name r = n.name r := by
  cases hthere : n'.memo.lookup r.key with
  | none =>
      rw [Names.name, Names.name, hthere, h.memo.lookup_eq_none hthere, h.sanitizer]
  | some name =>
      have hfinal : final.memo.lookup r.key = some (n.name r) :=
        hlater.memo _ _ (Entries.lookup_put_self ..)
      have hname := Option.some.inj ((h'.memo _ _ hthere).symm.trans hfinal)
      rw [Names.name, hthere, Option.getD_some, hname]

theorem remember_between (h : n.Extends n') (h' : n'.Extends final)
    (hlater : (n.remember r).Extends final) :
    (n.remember r).Extends (n'.remember r) ∧ (n'.remember r).Extends final := by
  have hname := name_eq_of_between h h' hlater
  constructor
  · refine ⟨h.sanitizer, ?_⟩
    unfold remember
    rw [hname]
    exact h.memo.put
  · refine ⟨h'.sanitizer, h'.memo.put_left ?_⟩
    rw [hname]
    exact hlater.memo _ _ (Entries.lookup_put_self ..)

/-- **What is learnt once more stays between** what was learnt the first time and the end. -/
theorem learn_between (h : n.Extends n') (h' : n'.Extends final)
    (hlater : (requests.foldl remember n).Extends final) :
    (requests.foldl remember n).Extends (requests.foldl remember n') ∧
      (requests.foldl remember n').Extends final := by
  induction requests generalizing n n' with
  | nil => exact ⟨h, h'⟩
  | cons r rest ih =>
      obtain ⟨hr, hr'⟩ := remember_between h h' ((extends_learn _ rest).trans hlater)
      exact ih hr hr' hlater

/-- What was asked for is remembered. -/
theorem isSome_learn (hr : r ∈ requests) :
    ((requests.foldl remember n).memo.lookup r.key).isSome := by
  induction requests generalizing n with
  | nil => cases hr
  | cons q rest ih =>
      rcases List.mem_cons.1 hr with rfl | hr
      · rw [List.foldl_cons, (extends_learn (n.remember r) rest).memo _ _
          (Entries.lookup_put_self ..)]
        rfl
      · exact ih hr

end Naming.Names

end DartScaffold
