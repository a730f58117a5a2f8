/-
**Requests to a sanitizer, one after another.**

Each request is answered and remembered, and a later one is answered from what is remembered if it
has the same key.  When names are texts and suffixes have no low line, a key tells its request.  So
what a sanitizer remembers is one entry for each distinct request, with the answer that a sanitizer
which remembers nothing gives to this request alone, and no answer depends on the requests before
it, whatever names the language takes.

Main definitions:

* `Naming.Request.IsPlain` — a request for a text, with a suffix without low lines;
* `Naming.Names.answers` — the answers to requests one after another.

Main results:

* `Naming.Request.IsPlain.key_eq_iff` — a key tells the request;
* `Naming.Sanitizer.answers_after` — requests are answered as if each were the first;
* `Naming.Sanitizer.memo_after` — what is remembered, entry by entry;
* `Naming.Sanitizer.answers_names` — **the memory does not show in the answers**.
-/

import Mathlib
import DartScaffold.Proofs.Naming.Requests
import DartScaffold.Proofs.Occurrences

set_option relaxedAutoImplicit false
set_option autoImplicit false

namespace DartScaffold

namespace Entries

/-- Writing what stands under a key already changes nothing. -/
theorem put_of_lookup {κ α : Type} [DecidableEq κ] [BEq κ] [LawfulBEq κ] {key : κ} {value : α}
    {entries : Entries κ α} (h : entries.lookup key = some value) :
    entries.put key value = entries := by
  induction entries with
  | nil => cases h
  | cons e rest ih =>
      obtain ⟨k, v⟩ := e
      rw [List.lookup_cons] at h
      by_cases hk : k = key
      · rw [beq_iff_eq.2 hk.symm] at h
        rw [put, if_pos hk, ← hk, Option.some.inj h]
      · rw [beq_eq_false_iff_ne.2 (Ne.symm hk)] at h
        rw [put, if_neg hk, ih h]

end Entries

namespace Naming

/-! ### Requests for texts -/

namespace Request

/-- A text is asked for, in some form, with a suffix that has no low line. -/
structure IsPlain (r : Request) : Prop where
  text : ∃ name : String, r = .ofDatum (.text name) r.form r.suffix
  clear : r.IsClear

theorem ofDatum_text (name : String) (form : Case) (suffix : String) :
    ofDatum (.text name) form suffix = ⟨name, name, form, suffix⟩ := by
  rw [ofDatum, Datum.display_text, source_text]

theorem isPlain_ofDatum {suffix : String} (h : '_' ∉ suffix.toList) (name : String) (form : Case) :
    (ofDatum (.text name) form suffix).IsPlain := ⟨⟨name, rfl⟩, h⟩

namespace IsPlain

variable {q r : Request}

/-- A text is shown as it is. -/
theorem shown_eq (h : r.IsPlain) : r.shown = r.source := by
  obtain ⟨name, hname⟩ := h.text
  rw [hname, ofDatum_text]

/-- **A key tells the request**: its name, its form and its suffix. -/
theorem key_eq_iff (hq : q.IsPlain) (hr : r.IsPlain) :
    q.key = r.key ↔ q.shown = r.shown ∧ q.form = r.form ∧ q.suffix = r.suffix := by
  constructor
  · exact key_inj hq.clear hr.clear
  · rintro ⟨hshown, hform, hsuffix⟩
    rw [key, key, hshown, hform, hsuffix]

/-- With a low line in a suffix, requests for different names may share a key. -/
example : (ofDatum (.text "a") .camel "b_camel_Value").key =
    (ofDatum (.text "a_camel_b") .camel "Value").key := by decide +kernel

theorem eq_of_key (hq : q.IsPlain) (hr : r.IsPlain) (h : q.key = r.key) : q = r := by
  obtain ⟨hshown, hform, hsuffix⟩ := (hq.key_eq_iff hr).1 h
  obtain ⟨name, hname⟩ := hq.text
  obtain ⟨name', hname'⟩ := hr.text
  rw [ofDatum_text] at hname hname'
  rw [hname, hname'] at hshown
  rw [hname, hname', hform, hsuffix, show name = name' from hshown]

end IsPlain

end Request

/-! ### One after another -/

/-- The answers to requests one after another; each is remembered for those behind it. -/
def Names.answers (n : Names) : List Request → List String
  | [] => []
  | r :: requests => n.name r :: (n.remember r).answers requests

namespace Sanitizer

variable {earlier requests : List Request}

theorem after_concat (s : Sanitizer) (earlier : List Request) (r : Request) :
    s.after (earlier ++ [r]) = (s.after earlier).remember r := by
  rw [after, after, List.foldl_append, List.foldl_cons, List.foldl_nil]

/-- A request is answered as if it were the first. -/
theorem name_after_plain (s : Sanitizer) (hearlier : ∀ r ∈ earlier, r.IsPlain) {r : Request}
    (hr : r.IsPlain) : (s.after earlier).name r = s.names.name r :=
  name_after (fun q hq => ⟨(hearlier q hq).clear, (hearlier q hq).shown_eq⟩) hr.clear hr.shown_eq

/-- **Requests are answered as if each were the first.**  The induction is on the requests; what was
answered joins the earlier ones. -/
theorem answers_after (s : Sanitizer) (hearlier : ∀ r ∈ earlier, r.IsPlain)
    (h : ∀ r ∈ requests, r.IsPlain) :
    (s.after earlier).answers requests = requests.map s.names.name := by
  induction requests generalizing earlier with
  | nil => rfl
  | cons r requests ih =>
      obtain ⟨hr, hrest⟩ := List.forall_mem_cons.1 h
      have hearlier' : ∀ q ∈ earlier ++ [r], q.IsPlain :=
        List.forall_mem_append.2 ⟨hearlier, List.forall_mem_singleton.2 hr⟩
      rw [Names.answers, List.map_cons, name_after_plain s hearlier hr, ← after_concat,
        ih hearlier' hrest]

/-- **What is remembered**: one entry for each distinct request, in the order in which they came
first, with the answer to this request alone. -/
theorem memo_after (s : Sanitizer) (h : ∀ r ∈ requests, r.IsPlain) :
    (s.after requests).memo = requests.eraseDups.map fun r => (r.key, s.names.name r) := by
  induction requests using List.reverseRecOn with
  | nil => rfl
  | append_singleton earlier r ih =>
      obtain ⟨hearlier, hlast⟩ := List.forall_mem_append.1 h
      have hr := List.forall_mem_singleton.1 hlast
      have hname := name_after_plain s hearlier hr
      have hmemo := ih hearlier
      rw [after_concat, Names.remember, hname, eraseDups_append_singleton]
      by_cases hmem : r ∈ earlier
      · -- The request came before, so its answer is there already.
        have hentry : (r.key, s.names.name r) ∈ (s.after earlier).memo := by
          rw [hmemo]
          exact List.mem_map.2 ⟨r, List.mem_eraseDups.2 hmem, rfl⟩
        have hlookup : (s.after earlier).memo.lookup r.key = some (s.names.name r) := by
          cases hfound : (s.after earlier).memo.lookup r.key with
          | none => exact absurd (List.lookup_eq_none_iff.1 hfound _ hentry) (by simp)
          | some v => rw [← hname, Names.name, hfound, Option.getD_some]
        rw [if_pos hmem, ← hmemo]
        exact Entries.put_of_lookup hlookup
      · have hnew : r.key ∉ (s.after earlier).memo.keys := by
          rw [hmemo, Entries.keys, List.map_map, List.mem_map]
          rintro ⟨q, hq, hkey⟩
          rw [List.mem_eraseDups] at hq
          exact hmem ((hearlier q hq).eq_of_key hr hkey ▸ hq)
        rw [if_neg hmem, List.map_append, ← hmemo]
        exact Entries.put_of_not_mem _ hnew

/-- **The memory does not show in the answers.**  Whatever names the language takes, requests for
texts, in any form and with suffixes without low lines, are answered as by sanitizers that remember
nothing; what is remembered has one entry for each distinct request; and two of them share a key
only if they have the same name, form and suffix. -/
theorem answers_names (s : Sanitizer) (h : ∀ r ∈ requests, r.IsPlain) :
    s.names.answers requests = requests.map s.names.name ∧
      (s.after requests).memo = requests.eraseDups.map (fun r => (r.key, s.names.name r)) ∧
      ∀ q ∈ requests, ∀ r ∈ requests,
        q.key = r.key ↔ q.shown = r.shown ∧ q.form = r.form ∧ q.suffix = r.suffix :=
  ⟨answers_after s (List.forall_mem_nil _) h, memo_after s h,
    fun q hq r hr => (h q hq).key_eq_iff (h r hr)⟩

/-- Names with low lines, one of them asked for twice, and one that the language takes. -/
def mixedCalls : List (String × Case × String) := [
  ("a_camel_Value", .camel, "Get"), ("class", .camel, "Value"), ("a", .camel, "Value"),
  ("class", .snake, "Value"), ("class", .camel, "Value"), ("", .pascal, "")]

/-- The requests for them. -/
def mixedRequests : List Request :=
  mixedCalls.map fun call => .ofDatum (.text call.1) call.2.1 call.2.2

/-- They are answered one by one, and the repeated one from the memory. -/
theorem answers_names_mixed :
    (∀ r ∈ mixedRequests, r.IsPlain) ∧
      (Sanitizer.mk ["class"] []).names.answers mixedRequests =
        ["aCamelValue", "classValue", "a", "classValue", "classValue", "field"] ∧
      ((Sanitizer.mk ["class"] []).after mixedRequests).memo.keys =
        ["a_camel_Value_camel_Get", "class_camel_Value", "a_camel_Value", "class_snake_Value",
          "_pascal_"] := by
  have hplain : ∀ r ∈ mixedRequests, r.IsPlain := by
    have hclear : ∀ call ∈ mixedCalls, '_' ∉ call.2.2.toList := by decide
    intro r hr
    obtain ⟨call, hcall, rfl⟩ := List.mem_map.1 hr
    exact Request.isPlain_ofDatum (hclear call hcall) call.1 call.2.1
  obtain ⟨hanswers, hmemo, -⟩ := answers_names (Sanitizer.mk ["class"] []) hplain
  refine ⟨hplain, ?_, ?_⟩
  · rw [hanswers]
    decide +kernel
  · rw [hmemo]
    decide +kernel

end Sanitizer

end Naming

end DartScaffold
