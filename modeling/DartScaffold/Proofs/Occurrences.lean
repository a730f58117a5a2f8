/-
**First occurrences.**

Names are kept once and in the order in which they come first: those of the groups of routes, and
those of the components that are asked for.  A further name changes the list only if it is new.
Entries that are written one after another are kept in the same way, each with the value that was
written last.

Main results:

* `find?_eraseDups` — what is looked for is found first at a first occurrence;
* `nodup_eraseDups` — each member is kept once;
* `eraseDups_append_singleton` — a further member counts if it is new;
* `filter_eraseDups`, `eraseDups_eraseDups_append`, `eraseDups_append_eraseDups` — members of a
  kind, and parts whose members are kept once;
* `Entries.ofPairs_eq` — entries written one after another: the first occurrence of a key gives the
  place, the last one the value;
* `Datum.distinct_texts`, `Datum.elements_texts` — texts as values are kept in the same way.
-/

import Mathlib
import DartScaffold.Datum.Use

set_option relaxedAutoImplicit false
set_option autoImplicit false

namespace DartScaffold

section

variable {α : Type} [BEq α] [LawfulBEq α]

/-- What is looked for is found first at a first occurrence. -/
theorem find?_eraseDups (p : α → Bool) : ∀ l : List α, l.eraseDups.find? p = l.find? p
  | [] => rfl
  | a :: as => by
      rw [List.eraseDups_cons, List.find?_cons, List.find?_cons]
      cases ha : p a with
      | true => rfl
      | false =>
          -- Behind the first member its further occurrences are gone, and none would be found.
          have hrest : (as.filter fun b => !b == a).find? p = as.find? p := by
            rw [List.find?_filter]
            congr 1
            funext b
            by_cases hb : b = a
            · simp [hb, ha]
            · simp [hb]
          exact (find?_eraseDups p (as.filter fun b => !b == a)).trans hrest
termination_by l => l.length
decreasing_by exact Nat.lt_succ_of_le (List.length_filter_le _ _)

/-- Each member is kept once. -/
theorem nodup_eraseDups : ∀ l : List α, l.eraseDups.Nodup
  | [] => List.nodup_nil
  | a :: as => by
      rw [List.eraseDups_cons, List.nodup_cons]
      exact ⟨by simp, nodup_eraseDups (as.filter fun b => !b == a)⟩
termination_by l => l.length
decreasing_by exact Nat.lt_succ_of_le (List.length_filter_le _ _)

/-- A further member counts if it is new. -/
theorem eraseDups_append_singleton (l : List α) (a : α) :
    (l ++ [a]).eraseDups = if a ∈ l then l.eraseDups else l.eraseDups ++ [a] := by
  rw [List.eraseDups_append, List.removeAll]
  by_cases h : a ∈ l
  · simp [h]
  · simp [h, List.eraseDups_cons]

/-- Where nothing comes twice, all is kept. -/
theorem eraseDups_of_nodup {l : List α} (h : l.Nodup) : l.eraseDups = l := by
  induction l using List.reverseRecOn with
  | nil => rfl
  | append_singleton l a ih =>
      obtain ⟨hl, -, hdisjoint⟩ := List.nodup_append.1 h
      have hnew : a ∉ l := fun ha => hdisjoint a ha a (List.mem_singleton_self a) rfl
      rw [eraseDups_append_singleton, if_neg hnew, ih hl]

/-- Of what is kept once, a kind is what is kept once of the kind. -/
theorem filter_eraseDups (p : α → Bool) (l : List α) :
    l.eraseDups.filter p = (l.filter p).eraseDups := by
  induction l using List.reverseRecOn with
  | nil => rfl
  | append_singleton l a ih =>
      rw [eraseDups_append_singleton, List.filter_append, List.filter_singleton]
      cases hp : p a with
      | true =>
          show _ = (l.filter p ++ [a]).eraseDups
          rw [eraseDups_append_singleton, ← ih]
          by_cases ha : a ∈ l
          · rw [if_pos ha, if_pos (List.mem_filter.2 ⟨ha, hp⟩)]
          · rw [if_neg ha, if_neg fun h => ha (List.mem_filter.1 h).1, List.filter_append,
              List.filter_singleton, hp]
            rfl
      | false =>
          show _ = (l.filter p ++ []).eraseDups
          rw [List.append_nil, ← ih]
          by_cases ha : a ∈ l
          · rw [if_pos ha]
          · rw [if_neg ha, List.filter_append, List.filter_singleton, hp]
            exact List.append_nil _

/-- What comes twice in a beginning comes twice in the whole. -/
theorem eraseDups_eraseDups_append (l r : List α) :
    (l.eraseDups ++ r).eraseDups = (l ++ r).eraseDups := by
  have hrest : r.removeAll l.eraseDups = r.removeAll l := by
    rw [List.removeAll, List.removeAll]
    refine List.filter_congr fun a _ => ?_
    rw [Bool.eq_iff_iff]
    simp
  rw [List.eraseDups_append, List.eraseDups_append, hrest,
    eraseDups_of_nodup (nodup_eraseDups l)]

/-- So it is with an end. -/
theorem eraseDups_append_eraseDups (l r : List α) :
    (l ++ r.eraseDups).eraseDups = (l ++ r).eraseDups := by
  rw [List.eraseDups_append, List.eraseDups_append, List.removeAll, filter_eraseDups,
    eraseDups_of_nodup (nodup_eraseDups _), List.removeAll]

end

/-! ### Entries -/

namespace Entries

variable {κ α : Type} [DecidableEq κ]

omit [DecidableEq κ] in
/-- Entries under different keys are told by their keys and by what stands under each. -/
theorem eq_filterMap_keys [BEq κ] [LawfulBEq κ] {entries : Entries κ α}
    (h : entries.keys.Nodup) :
    entries = entries.keys.filterMap fun k => (entries.lookup k).map (k, ·) := by
  induction entries with
  | nil => rfl
  | cons e rest ih =>
      obtain ⟨k, v⟩ := e
      obtain ⟨hk, hrest⟩ := List.nodup_cons.1 h
      have hbehind : (keys rest).filterMap (fun j => (List.lookup j ((k, v) :: rest)).map (j, ·)) =
          (keys rest).filterMap fun j => (rest.lookup j).map (j, ·) := by
        refine List.filterMap_congr fun j hj => ?_
        have hne : (j == k) = false := beq_eq_false_iff_ne.2 fun hjk => hk (hjk ▸ hj)
        rw [List.lookup_cons, hne]
      have hkeys : keys ((k, v) :: rest) = k :: keys rest := rfl
      rw [hkeys, List.filterMap_cons, List.lookup_cons_self, hbehind, ← ih hrest]
      rfl

omit [DecidableEq κ] in
/-- Under different keys each entry is found. -/
theorem lookup_of_mem [BEq κ] [LawfulBEq κ] {entries : Entries κ α} (h : entries.keys.Nodup)
    {key : κ} {value : α} (he : (key, value) ∈ entries) : entries.lookup key = some value := by
  induction entries with
  | nil => cases he
  | cons e rest ih =>
      obtain ⟨hk, hrest⟩ := List.nodup_cons.1 h
      rcases List.mem_cons.1 he with rfl | he
      · exact List.lookup_cons_self
      · have hne : (key == e.1) = false :=
          beq_eq_false_iff_ne.2 fun hkey => hk (hkey ▸ List.mem_map_of_mem he)
        rw [List.lookup_cons, hne]
        exact ih hrest he

omit [DecidableEq κ] in
/-- Under different keys it does not matter from which end an entry is looked for. -/
theorem lookup_reverse [BEq κ] [LawfulBEq κ] {entries : Entries κ α} (h : entries.keys.Nodup)
    (key : κ) : entries.reverse.lookup key = entries.lookup key := by
  have hreverse : (keys entries.reverse).Nodup := by
    rw [keys, List.map_reverse]
    exact List.nodup_reverse.2 h
  refine Option.ext fun value => ⟨fun hvalue => ?_, fun hvalue => ?_⟩
  · exact lookup_of_mem h (List.mem_reverse.1 (mem_of_lookup hvalue))
  · exact lookup_of_mem hreverse (List.mem_reverse.2 (mem_of_lookup hvalue))

theorem ofPairs_append_singleton (pairs : List (κ × α)) (p : κ × α) :
    ofPairs (pairs ++ [p]) = (ofPairs pairs).put p.1 p.2 := by
  rw [ofPairs, List.foldl_append]
  rfl

/-- The keys come in the order in which they were first written. -/
theorem keys_ofPairs [BEq κ] [LawfulBEq κ] (pairs : List (κ × α)) :
    keys (ofPairs pairs) = (keys pairs).eraseDups := by
  induction pairs using List.reverseRecOn with
  | nil => rfl
  | append_singleton pairs p ih =>
      have hkeys : keys (pairs ++ [p]) = keys pairs ++ [p.1] := List.map_append
      rw [ofPairs_append_singleton, keys_put, ih, hkeys, eraseDups_append_singleton]
      simp only [List.mem_eraseDups]

/-- Under each key stands what was written last. -/
theorem lookup_ofPairs [BEq κ] [LawfulBEq κ] (pairs : List (κ × α)) (key : κ) :
    (ofPairs pairs).lookup key = pairs.reverse.lookup key := by
  induction pairs using List.reverseRecOn with
  | nil => rfl
  | append_singleton pairs p ih =>
      rw [ofPairs_append_singleton, lookup_put, ih, List.reverse_concat, List.lookup_cons]
      by_cases h : key = p.1
      · rw [if_pos h, beq_iff_eq.2 h]
      · rw [if_neg h, beq_eq_false_iff_ne.2 h]

/-- **Entries written one after another**: the first occurrence of a key gives the place, and the
last one the value. -/
theorem ofPairs_eq [BEq κ] [LawfulBEq κ] (pairs : List (κ × α)) :
    ofPairs pairs =
      (keys pairs).eraseDups.filterMap fun k => (pairs.reverse.lookup k).map (k, ·) := by
  have hnodup : (keys (ofPairs pairs)).Nodup := keys_ofPairs pairs ▸ nodup_eraseDups _
  have h := eq_filterMap_keys hnodup
  simp only [lookup_ofPairs] at h
  rw [keys_ofPairs] at h
  exact h

end Entries

/-! ### Values -/

namespace Datum

theorem same_text_iff (d : Datum) (s : String) : same d (.text s) = true ↔ d = .text s := by
  cases d with
  | text t => simp [same]
  | _ => simp [same, number?]

/-- A text is among texts by value exactly if it is one of them. -/
theorem isIn_texts (s : String) (ss : List String) :
    isIn (.text s) (ss.map .text) = decide (s ∈ ss) := by
  rw [Bool.eq_iff_iff, decide_eq_true_eq, isIn, List.any_map, List.any_eq_true]
  constructor
  · rintro ⟨t, ht, hsame⟩
    have hts : Datum.text t = .text s := (same_text_iff _ s).1 hsame
    rwa [← Datum.text.inj hts]
  · intro hs
    exact ⟨s, hs, (same_text_iff _ s).2 rfl⟩

/-- Texts as values are kept once and in the order in which they come first. -/
theorem distinct_texts (ss : List String) :
    distinct (ss.map .text) = ss.eraseDups.map .text := by
  -- From the last text on: it counts if it does not come before.
  induction ss using List.reverseRecOn with
  | nil => rfl
  | append_singleton ss s ih =>
      have hstep : distinct ((ss ++ [s]).map .text) =
          if isIn (.text s) (distinct (ss.map .text)) then distinct (ss.map .text)
          else distinct (ss.map .text) ++ [.text s] := by
        rw [List.map_append, distinct, List.foldl_append]
        rfl
      rw [hstep, ih, isIn_texts, eraseDups_append_singleton]
      by_cases hs : s ∈ ss
      · have hkept : s ∈ ss.eraseDups := List.mem_eraseDups.2 hs
        rw [if_pos hs, decide_eq_true hkept]
        rfl
      · have hnew : s ∉ ss.eraseDups := fun h => hs (List.mem_eraseDups.1 h)
        rw [if_neg hs, decide_eq_false hnew, List.map_append]
        rfl

/-- The items of a list of texts, as a set. -/
theorem elements_texts (ss : List String) :
    (Datum.list (ss.map .text)).elements = .ok (ss.eraseDups.map .text) := by
  have hnone : (ss.map .text).find? (fun d => !hashable d) = none := by
    rw [List.find?_eq_none]
    intro d hd
    obtain ⟨s, -, rfl⟩ := List.mem_map.1 hd
    exact Bool.not_eq_true _ ▸ rfl
  show asSet (ss.map .text) = _
  rw [asSet, hnone, distinct_texts]

end Datum

end DartScaffold
