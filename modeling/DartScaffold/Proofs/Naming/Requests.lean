/-
**What a sanitizer answers after other requests.**

A sanitizer remembers its answers under keys that are put together of the name, the way of writing
and the suffix, with low lines between them.  Names have low lines themselves, so such a key is read
from its end: a suffix without low lines is what stands behind the last one, a way of writing has
none, and all the rest is the name.  So requests with such suffixes share a key only if they ask for
the same, and a request is answered as if nothing had been asked for before.

Main definitions:

* `Naming.Request.IsClear` — the suffix of a request has no low line;
* `Naming.Sanitizer.after` — a sanitizer with what it remembers of earlier requests.

Main results:

* `Naming.Request.key_inj` — **a key tells the request**;
* `Naming.Sanitizer.exists_name_after` — an answer was made for a name that is shown alike;
* `Naming.Sanitizer.name_after` — **names that are texts are answered as by a new sanitizer**.
-/

import Mathlib
import DartScaffold.Proofs.Naming.Memory

set_option relaxedAutoImplicit false
set_option autoImplicit false

namespace DartScaffold.Naming

/-! ### Keys -/

namespace Request

/-- The suffix has no low line. -/
def IsClear (r : Request) : Prop := '_' ∉ r.suffix.toList

instance (r : Request) : Decidable r.IsClear := inferInstanceAs (Decidable ('_' ∉ r.suffix.toList))

theorem isClear_field (d : Datum) : (field d).IsClear := by
  show '_' ∉ "Value".toList
  decide

theorem isClear_type (name : String) : (Request.mk name name .pascal "Model").IsClear := by
  show '_' ∉ "Model".toList
  decide

end Request

/-- What stands behind the last low line, and what in front of it. -/
theorem append_lowLine_inj {before before' behind behind' : List Char} (h : '_' ∉ behind)
    (h' : '_' ∉ behind') (heq : before ++ '_' :: behind = before' ++ '_' :: behind') :
    before = before' ∧ behind = behind' := by
  -- If one of the parts in front were longer, the other part behind would hold a low line.
  rcases List.append_eq_append_iff.1 heq with ⟨more, hbefore, hbehind⟩ | ⟨more, hbefore, hbehind⟩
  · cases more with
    | nil => simp_all
    | cons c more =>
        obtain ⟨-, rfl⟩ := List.cons.inj hbehind
        exact absurd (List.mem_append_right _ (List.mem_cons_self ..)) h
  · cases more with
    | nil => simp_all
    | cons c more =>
        obtain ⟨-, rfl⟩ := List.cons.inj hbehind
        exact absurd (List.mem_append_right _ (List.mem_cons_self ..)) h'

theorem Case.not_mem_name (c : Case) : '_' ∉ c.name.toList := by
  cases c <;> decide

theorem Case.name_inj {c c' : Case} (h : c.name = c'.name) : c = c' := by
  revert h
  cases c <;> cases c' <;> decide

namespace Request

theorem toList_key (r : Request) :
    r.key.toList = (r.shown.toList ++ '_' :: r.form.name.toList) ++ '_' :: r.suffix.toList := by
  unfold key
  simp

/-- **A key tells the request**: the name that is shown, the way of writing and the suffix. -/
theorem key_inj {q r : Request} (hq : q.IsClear) (hr : r.IsClear) (h : q.key = r.key) :
    q.shown = r.shown ∧ q.form = r.form ∧ q.suffix = r.suffix := by
  have hlists := congrArg String.toList h
  rw [toList_key, toList_key] at hlists
  obtain ⟨hfront, hsuffix⟩ := append_lowLine_inj hq hr hlists
  obtain ⟨hshown, hform⟩ := append_lowLine_inj q.form.not_mem_name r.form.not_mem_name hfront
  exact ⟨String.toList_injective hshown, Case.name_inj (String.toList_injective hform),
    String.toList_injective hsuffix⟩

end Request

/-! ### Answers -/

namespace Sanitizer

/-- The sanitizer with what it remembers of earlier requests. -/
def after (s : Sanitizer) (earlier : List Request) : Names := earlier.foldl Names.remember s.names

variable {s : Sanitizer} {earlier : List Request} {q : Request}

/-- An answer was made for the request, or for an earlier one whose name is shown alike. -/
theorem exists_name_after (hearlier : ∀ r ∈ earlier, r.IsClear) (hq : q.IsClear) :
    ∃ r ∈ q :: earlier, r.shown = q.shown ∧
      (s.after earlier).name q = s.fresh q.form q.suffix r.source := by
  -- The induction is on the earlier requests from the last one on: only a request with the key of
  -- `q` can have changed the answer to `q`, and then that answer is its own.
  induction earlier using List.reverseRecOn generalizing q with
  | nil => exact ⟨q, List.mem_cons_self .., rfl, Names.name_of_memo_nil s q⟩
  | append_singleton earlier r ih =>
      obtain ⟨hbefore, hr⟩ := List.forall_mem_append.1 hearlier
      have hlast : s.after (earlier ++ [r]) = (s.after earlier).remember r := by
        rw [after, List.foldl_append]
        rfl
      by_cases hkey : q.key = r.key
      · have hr := List.forall_mem_singleton.1 hr
        obtain ⟨hshown, hform, hsuffix⟩ := Request.key_inj hq hr hkey
        obtain ⟨t, ht, htshown, hname⟩ := ih hbefore hr
        refine ⟨t, List.mem_cons_of_mem _ ?_, htshown.trans hshown.symm, ?_⟩
        · exact (List.perm_append_singleton r earlier).mem_iff.2 ht
        · rw [hlast, Dart.name_remember_of_eq hkey, hname, hform, hsuffix]
      · obtain ⟨t, ht, htshown, hname⟩ := ih hbefore hq
        refine ⟨t, ?_, htshown, ?_⟩
        · rcases List.mem_cons.1 ht with rfl | ht
          · exact List.mem_cons_self ..
          · exact List.mem_cons_of_mem _ (List.mem_append_left _ ht)
        · rw [hlast, Dart.name_remember_of_ne hkey, hname]

/-- **Names that are texts are answered as by a new sanitizer**, whatever was asked for before. -/
theorem name_after (hearlier : ∀ r ∈ earlier, r.IsClear ∧ r.shown = r.source) (hq : q.IsClear)
    (hsource : q.shown = q.source) :
    (s.after earlier).name q = s.fresh q.form q.suffix q.source := by
  obtain ⟨r, hr, hshown, hname⟩ := exists_name_after (s := s) (fun r hr => (hearlier r hr).1) hq
  have hsame : r.shown = r.source := by
    rcases List.mem_cons.1 hr with rfl | hr
    · exact hsource
    · exact (hearlier r hr).2
  rw [hname, ← hsame, hshown, hsource]

end Sanitizer

end DartScaffold.Naming
