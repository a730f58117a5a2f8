/-
**Entries under names, in the order of their first writing.**

The members of an object, the columns of a table, the groups of an analysis and the registered
generators are all entries under keys whose order of first writing shows in the answers.  They are
kept as a list of pairs in which no key occurs twice; writing under a key that is present changes
the entry in its place.

Main definitions:

* `Entries` — pairs of a key and a value;
* `Entries.put`, `Entries.erase`, `Entries.ofPairs` — writing, removing, writing one after another.

Main results:

* `Entries.lookup_put_self`, `Entries.lookup_put_of_ne`, `Entries.lookup_put` — what writing
  changes;
* `Entries.lookup_filter`, `Entries.lookup_erase` — what removing changes;
* `Entries.lookup_map` — what changes when each value does;
* `Entries.mem_of_lookup` — what is found is one of the entries;
* `Entries.mem_put`, `Entries.put_of_not_mem` — what comes to stand there, and where;
* `Entries.keys_put` — writing keeps the order of the keys and adds a new one at the end;
* `Entries.nodup_keys_put` — no key comes to stand twice.
-/

set_option relaxedAutoImplicit false
set_option autoImplicit false

namespace DartScaffold

/-- Values under keys, in the order in which the keys were first written. -/
abbrev Entries (κ α : Type) := List (κ × α)

namespace Entries

variable {κ α : Type} [DecidableEq κ]

/-- The keys in order. -/
def keys {κ α : Type} (entries : Entries κ α) : List κ := entries.map Prod.fst

/-- The entries with `value` under `key`: in its place if the key is present, else at the end. -/
def put (key : κ) (value : α) : Entries κ α → Entries κ α
  | [] => [(key, value)]
  | (k, v) :: rest => if k = key then (key, value) :: rest else (k, v) :: put key value rest

/-- The entries without the one under `key`. -/
def erase (key : κ) (entries : Entries κ α) : Entries κ α := entries.filter fun e => e.1 ≠ key

/-- The entries that writing the pairs one after another leaves. -/
def ofPairs (pairs : List (κ × α)) : Entries κ α :=
  pairs.foldl (fun entries e => entries.put e.1 e.2) []

@[simp] theorem lookup_put_self [BEq κ] [LawfulBEq κ] (key : κ) (value : α)
    (entries : Entries κ α) :
    (entries.put key value).lookup key = some value := by
  induction entries with
  | nil => simp [put]
  | cons e rest ih =>
    obtain ⟨k, v⟩ := e
    by_cases h : k = key
    · simp [put, h]
    · have h' : (key == k) = false := by simp [Ne.symm h]
      simp [put, h, List.lookup_cons, h', ih]

theorem lookup_put_of_ne [BEq κ] [LawfulBEq κ] {key other : κ} (h : other ≠ key) (value : α)
    (entries : Entries κ α) :
    (entries.put key value).lookup other = entries.lookup other := by
  have h' : (other == key) = false := by simp [h]
  induction entries with
  | nil => simp [put, List.lookup_cons, h']
  | cons e rest ih =>
    obtain ⟨k, v⟩ := e
    by_cases hk : k = key
    · subst hk
      simp [put, List.lookup_cons, h']
    · simp [put, hk, List.lookup_cons, ih]

/-- What stands under a key after writing. -/
theorem lookup_put [BEq κ] [LawfulBEq κ] (key other : κ) (value : α) (entries : Entries κ α) :
    (entries.put key value).lookup other =
      if other = key then some value else entries.lookup other := by
  by_cases h : other = key
  · rw [if_pos h, h, lookup_put_self]
  · rw [if_neg h, lookup_put_of_ne h]

omit [DecidableEq κ] in
/-- What stands under a key when only some keys are kept. -/
theorem lookup_filter [BEq κ] [LawfulBEq κ] (p : κ → Bool) (entries : Entries κ α) (key : κ) :
    (entries.filter fun e => p e.1).lookup key = if p key then entries.lookup key else none := by
  induction entries with
  | nil => simp
  | cons e rest ih =>
    obtain ⟨k, v⟩ := e
    rw [List.filter_cons, List.lookup_cons]
    cases hkey : key == k with
    | true =>
      obtain rfl := eq_of_beq hkey
      cases hp : p key with
      | true => simp
      | false => simp [ih, hp]
    | false =>
      cases hp : p k with
      | true => simp [List.lookup_cons, hkey, ih]
      | false => simp [ih]

/-- What stands under a key after removing. -/
theorem lookup_erase [BEq κ] [LawfulBEq κ] (key other : κ) (entries : Entries κ α) :
    (entries.erase key).lookup other = if other = key then none else entries.lookup other := by
  rw [erase, lookup_filter (fun k => decide (k ≠ key))]
  by_cases h : other = key <;> simp [h]

omit [DecidableEq κ] in
/-- What stands under a key when each value is replaced by another one. -/
theorem lookup_map {β : Type} [BEq κ] [LawfulBEq κ] (f : κ → α → β) (entries : Entries κ α)
    (key : κ) :
    (entries.map fun e => (e.1, f e.1 e.2)).lookup key = (entries.lookup key).map (f key) := by
  induction entries with
  | nil => rfl
  | cons e rest ih =>
    rw [List.map_cons, List.lookup_cons, List.lookup_cons, ih]
    cases hkey : key == e.1 with
    | true =>
      rw [← eq_of_beq hkey]
      rfl
    | false => rfl

omit [DecidableEq κ] in
/-- What is found is one of the entries. -/
theorem mem_of_lookup [BEq κ] [LawfulBEq κ] {key : κ} {value : α} {entries : Entries κ α}
    (h : entries.lookup key = some value) : (key, value) ∈ entries := by
  obtain ⟨before, after, hentries, -⟩ := List.lookup_eq_some_iff.1 h
  rw [hentries]
  exact List.mem_append_right _ (List.mem_cons_self ..)

/-- Nothing but the written entry comes to stand among the entries. -/
theorem mem_put {key : κ} {value : α} {entries : Entries κ α} {e : κ × α}
    (h : e ∈ entries.put key value) : e = (key, value) ∨ e ∈ entries := by
  induction entries with
  | nil => exact .inl (by simpa [put] using h)
  | cons d rest ih =>
    obtain ⟨k, v⟩ := d
    by_cases hk : k = key
    · rw [put, if_pos hk] at h
      rcases List.mem_cons.1 h with he | he
      · exact .inl he
      · exact .inr (List.mem_cons_of_mem _ he)
    · rw [put, if_neg hk] at h
      rcases List.mem_cons.1 h with he | he
      · exact .inr (he ▸ List.mem_cons_self ..)
      · exact (ih he).imp id (List.mem_cons_of_mem _)

/-- An entry under a new key comes last. -/
theorem put_of_not_mem {key : κ} (value : α) {entries : Entries κ α} (h : key ∉ entries.keys) :
    entries.put key value = entries ++ [(key, value)] := by
  induction entries with
  | nil => rfl
  | cons e rest ih =>
    obtain ⟨k, v⟩ := e
    obtain ⟨hk, hrest⟩ : key ≠ k ∧ key ∉ keys rest := by simpa [keys] using h
    rw [put, if_neg (Ne.symm hk), ih hrest, List.cons_append]

/-- Writing keeps the order of the keys, and a new key comes last. -/
theorem keys_put (key : κ) (value : α) (entries : Entries κ α) :
    (entries.put key value).keys =
      if key ∈ entries.keys then entries.keys else entries.keys ++ [key] := by
  induction entries with
  | nil => simp [put, keys]
  | cons e rest ih =>
    obtain ⟨k, v⟩ := e
    by_cases hk : k = key
    · subst hk
      simp [put, keys]
    · simp only [keys] at ih
      have hk' : key ≠ k := fun h => hk h.symm
      simp only [put, hk, if_false, keys, List.map_cons, ih, List.mem_cons, hk', false_or]
      by_cases hm : key ∈ List.map Prod.fst rest <;> simp [hm]

/-- No key comes to stand twice by writing. -/
theorem nodup_keys_put (key : κ) (value : α) {entries : Entries κ α} (h : entries.keys.Nodup) :
    (entries.put key value).keys.Nodup := by
  rw [keys_put]
  split
  · exact h
  · rename_i hn
    rw [List.nodup_append]
    refine ⟨h, by simp, ?_⟩
    rintro a ha b hb rfl
    rw [List.mem_singleton] at hb
    exact hn (hb ▸ ha)

end Entries

end DartScaffold
