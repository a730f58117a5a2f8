/-
**What registering a component changes.**

A component that is not to be replaced is registered under a name that no component has, and its
aliases are added one after another, up to the first that leads to something already.  What was
added before it is not taken back, so a registration that fails at an alias leaves the component
where it is, and trying once more finds it there and does nothing.  The name of the component itself
is compared with the names of components only.  If it was an alias of another component, it comes to
lead to the new one; all other names lead where they led before.

Main definitions:

* `Registry.withComponent` — the registry with a component and aliases for it;
* `Registry.isFree`, `Registry.conflict` — an alias that may be added, and why another may not.

Main results:

* `Registry.addAliases_withComponent` — aliases are added up to the first that is not free;
* `Registry.register_eq` — **what a registration does**, in full; `Registry.register_eq_error`,
  `Registry.register_eq_ok` — what follows from how it ended;
* `Registry.register_fault` — **when a failed registration has changed nothing**;
* `Registry.find_register` — **where the names lead afterwards**.
-/

import DartScaffold.Proofs.Registry.History

set_option relaxedAutoImplicit false
set_option autoImplicit false

namespace DartScaffold.Registry

variable {γ : Type} {r : Registry γ} {key : String} {c : γ}

/-! ### A component with its aliases -/

/-- Aliases of a name written one after another, whatever they stood for. -/
def withAliases (key : String) (known : Entries String String) (given : List String) :
    Entries String String :=
  given.foldl (fun known a =>
    if Text.lower a = key then known else known.put (Text.lower a) key) known

/-- The registry with a component under a key and aliases for it. -/
def withComponent (r : Registry γ) (key : String) (c : γ) (aliases : List String) : Registry γ :=
  ⟨r.components.put key c, withAliases key r.aliases aliases⟩

theorem withAliases_append_singleton (key : String) (known : Entries String String)
    (given : List String) (a : String) :
    withAliases key known (given ++ [a]) =
      if Text.lower a = key then withAliases key known given
      else (withAliases key known given).put (Text.lower a) key := by
  simp only [withAliases, List.foldl_append, List.foldl_cons, List.foldl_nil]

/-- What an alias stands for after several were written. -/
theorem lookup_withAliases (key : String) (known : Entries String String) (given : List String)
    (a : String) : (withAliases key known given).lookup a =
      if a ≠ key ∧ a ∈ given.map Text.lower then some key else known.lookup a := by
  induction given generalizing known with
  | nil => simp [withAliases]
  | cons b given ih =>
      show (withAliases key (if Text.lower b = key then known
        else known.put (Text.lower b) key) given).lookup a = _
      rw [ih]
      by_cases hlater : a ≠ key ∧ a ∈ given.map Text.lower
      · rw [if_pos hlater, if_pos ⟨hlater.1, List.mem_cons_of_mem _ hlater.2⟩]
      · rw [if_neg hlater]
        by_cases hb : Text.lower b = key
        · -- The name itself is no alias.
          have hhere : ¬(a ≠ key ∧ a ∈ (b :: given).map Text.lower) := by
            rintro ⟨ha, hmem⟩
            rcases List.mem_cons.1 hmem with hab | hmem
            · exact ha (hab.trans hb)
            · exact hlater ⟨ha, hmem⟩
          rw [if_pos hb, if_neg hhere]
        · rw [if_neg hb, Entries.lookup_put]
          by_cases hab : a = Text.lower b
          · rw [if_pos hab, if_pos ⟨fun ha => hb (hab.symm.trans ha), by simp [hab]⟩]
          · have hhere : ¬(a ≠ key ∧ a ∈ (b :: given).map Text.lower) := by
              rintro ⟨ha, hmem⟩
              rcases List.mem_cons.1 hmem with heq | hmem
              · exact hab heq
              · exact hlater ⟨ha, hmem⟩
            rw [if_neg hab, if_neg hhere]

/-- Replacing what is there, aliases are always added. -/
theorem addAliases_replace (r : Registry γ) (key : String) (given : List String) :
    addAliases key true r given =
      (.ok (), ⟨r.components, withAliases key r.aliases given⟩) := by
  induction given generalizing r with
  | nil => rfl
  | cons a given ih =>
      by_cases ha : Text.lower a = key
      · simp only [addAliases, addAlias, ha, if_true, ih, withAliases, List.foldl_cons]
      · simp only [addAliases, addAlias, ha, if_false, Bool.not_true, Bool.false_and,
          Bool.false_eq_true, if_true, ih, withAliases, List.foldl_cons]

/-! ### Aliases that are free -/

/-- An alias that may be added for a name: it is the name itself, or it leads nowhere. -/
def isFree (r : Registry γ) (key given : String) : Bool :=
  Text.lower given == key || !r.isKnown given

/-- Why an alias that leads somewhere is not added. -/
def conflict (r : Registry γ) (given : String) : RegistryFault :=
  if (r.components.lookup (Text.lower given)).isSome then .aliasIsComponent given
  else .aliasTaken given ((r.aliases.lookup (Text.lower given)).getD "")

/-- Among the aliases that were added as free ones is none that led somewhere. -/
theorem not_mem_of_isKnown {added : List String} (hadded : ∀ b ∈ added, r.isFree key b = true)
    {a : String} (ha : Text.lower a ≠ key) (hknown : r.isKnown a = true) :
    Text.lower a ∉ added.map Text.lower := by
  intro hmem
  obtain ⟨b, hb, hba⟩ := List.mem_map.1 hmem
  have hfree := hadded b hb
  have hsame : r.isKnown b = r.isKnown a := by simp only [isKnown, hba]
  rw [isFree, hsame, hknown, hba] at hfree
  exact ha (by simpa using hfree)

/-- One more alias of a new component: it is added if it is free. -/
theorem addAlias_withComponent (h : r.Grounded) (hkey : r.components.lookup key = none)
    {added : List String} (hadded : ∀ b ∈ added, r.isFree key b = true) (a : String) :
    (r.withComponent key c added).addAlias key a false =
      if r.isFree key a then .ok (r.withComponent key c (added ++ [a]))
      else .error (r.conflict a) := by
  unfold addAlias
  dsimp only
  by_cases ha : Text.lower a = key
  · simp only [ha, if_true, isFree, beq_self_eq_true, Bool.true_or, withComponent,
      withAliases_append_singleton]
  rw [if_neg ha]
  have hcomponents : (r.withComponent key c added).components.lookup (Text.lower a) =
      r.components.lookup (Text.lower a) := Entries.lookup_put_of_ne ha ..
  have haliases : (r.withComponent key c added).aliases.lookup (Text.lower a) =
      if Text.lower a ≠ key ∧ Text.lower a ∈ added.map Text.lower then some key
      else r.aliases.lookup (Text.lower a) := lookup_withAliases ..
  cases hcomponent : r.components.lookup (Text.lower a) with
  | some d => simp [hcomponents, hcomponent, isFree, isKnown, ha, conflict]
  | none =>
      rw [hcomponents, haliases, hcomponent]
      cases halias : r.aliases.lookup (Text.lower a) with
      | some target =>
          -- It stands for a registered component, and that is another one.
          have htarget : target ≠ key := by
            rintro rfl
            obtain ⟨d, hd⟩ := h.lookup halias
            rw [hkey] at hd
            cases hd
          have hknown : r.isKnown a = true := by simp [isKnown, halias]
          have hnot := not_mem_of_isKnown hadded ha hknown
          simp [hnot, Option.filter, htarget, isFree, hknown, ha, conflict, hcomponent, halias]
      | none =>
          have hunknown : r.isKnown a = false := by simp [isKnown, hcomponent, halias]
          have hput : withAliases key r.aliases (added ++ [a]) =
              (withAliases key r.aliases added).put (Text.lower a) key := by
            rw [withAliases_append_singleton, if_neg ha]
          by_cases hmem : Text.lower a ∈ added.map Text.lower
          · simp [hmem, ha, Option.filter, isFree, hunknown, withComponent, hput]
          · simp [hmem, isFree, hunknown, withComponent, hput]

/-- **Aliases of a new component are added up to the first that is not free.** -/
theorem addAliases_withComponent (h : r.Grounded) (hkey : r.components.lookup key = none)
    {added : List String} (hadded : ∀ b ∈ added, r.isFree key b = true) (given : List String) :
    addAliases key false (r.withComponent key c added) given =
      match given.find? fun a => !r.isFree key a with
      | none => (.ok (), r.withComponent key c (added ++ given))
      | some a =>
        (.error (r.conflict a),
          r.withComponent key c (added ++ given.takeWhile (r.isFree key))) := by
  induction given generalizing added with
  | nil => simp [addAliases]
  | cons a given ih =>
      rw [addAliases, addAlias_withComponent h hkey hadded]
      cases ha : r.isFree key a with
      | true =>
          have hadded' : ∀ b ∈ added ++ [a], r.isFree key b = true := by
            intro b hb
            rcases List.mem_append.1 hb with hb | hb
            · exact hadded b hb
            · rw [List.mem_singleton.1 hb, ha]
          rw [if_pos rfl, List.find?_cons_of_neg (by simp [ha]), List.takeWhile_cons_of_pos ha]
          show addAliases key false (r.withComponent key c (added ++ [a])) given = _
          rw [ih hadded']
          simp only [List.append_assoc, List.singleton_append]
      | false =>
          rw [List.find?_cons_of_pos (by simp [ha]), List.takeWhile_cons_of_neg (by simp [ha])]
          simp

/-- **What a registration does.**  What is no component is refused.  What is to be replaced is
written over, and what is not to be replaced and there already is kept.  A new component is
registered with its aliases up to the first that is not free. -/
theorem register_eq (h : r.Grounded) (name : String) (component : Option γ)
    (aliases : List String) (replace : Bool) :
    r.register name component aliases replace =
      match component with
      | none => (.error .notGenerator, r)
      | some c =>
        if replace then (.ok (), r.withComponent (Text.lower name) c aliases)
        else if (r.components.lookup (Text.lower name)).isSome then (.ok (), r)
        else
          match aliases.find? fun a => !r.isFree (Text.lower name) a with
          | none => (.ok (), r.withComponent (Text.lower name) c aliases)
          | some a =>
            (.error (r.conflict a), r.withComponent (Text.lower name) c
              (aliases.takeWhile (r.isFree (Text.lower name)))) := by
  cases component with
  | none => rfl
  | some c =>
      rw [register]
      cases replace with
      | true => simp [addAliases_replace, withComponent]
      | false =>
          cases hkey : r.components.lookup (Text.lower name) with
          | some d => simp
          | none =>
              have hnone : ∀ b ∈ ([] : List String), r.isFree (Text.lower name) b = true := by simp
              have hadd := addAliases_withComponent (c := c) h hkey hnone aliases
              simpa [hkey, withComponent, withAliases] using hadd

variable {name : String} {aliases : List String} {r' : Registry γ}

/-- A component is refused for an alias only: the first that is not free. -/
theorem register_eq_error (h : r.Grounded) {replace : Bool} {f : RegistryFault}
    (hfault : r.register name (some c) aliases replace = (.error f, r')) :
    replace = false ∧ r.components.lookup (Text.lower name) = none ∧
    ∃ added given rest, aliases = added ++ given :: rest ∧
      (∀ a ∈ added, r.isFree (Text.lower name) a = true) ∧
      r.isFree (Text.lower name) given = false ∧ f = r.conflict given ∧
      r' = r.withComponent (Text.lower name) c added := by
  rw [register_eq h] at hfault
  dsimp only at hfault
  split at hfault
  · cases hfault
  · rename_i hreplace
    split at hfault
    · cases hfault
    · rename_i hnew
      split at hfault
      · cases hfault
      · rename_i given hfind
        obtain ⟨hf, rfl⟩ := Prod.mk.inj hfault
        obtain ⟨hgiven, added, rest, haliases, hadded⟩ := List.find?_eq_some_iff_append.1 hfind
        have hfree : ∀ a ∈ added, r.isFree (Text.lower name) a = true := by
          intro a ha
          simpa using hadded a ha
        have htake : aliases.takeWhile (r.isFree (Text.lower name)) = added := by
          rw [haliases, List.takeWhile_append_of_pos hfree,
            List.takeWhile_cons_of_neg (by simpa using hgiven), List.append_nil]
        rw [htake]
        exact ⟨by simpa using hreplace, Option.not_isSome_iff_eq_none.1 hnew, added, given, rest,
          haliases, hfree, by simpa using hgiven, (Except.error.inj hf).symm, rfl⟩

/-- A registration that replaces nothing and succeeds has found the component there, or it is new
and all its aliases are free. -/
theorem register_eq_ok (h : r.Grounded) {component : Option γ}
    (hok : r.register name component aliases false = (.ok (), r')) :
    ∃ c, component = some c ∧
      ((∃ d, r.components.lookup (Text.lower name) = some d ∧ r' = r) ∨
        (r.components.lookup (Text.lower name) = none ∧
          (∀ a ∈ aliases, r.isFree (Text.lower name) a = true) ∧
          r' = r.withComponent (Text.lower name) c aliases)) := by
  rw [register_eq h] at hok
  cases component with
  | none => cases hok
  | some c =>
      refine ⟨c, rfl, ?_⟩
      simp only [Bool.false_eq_true, if_false] at hok
      cases hkey : r.components.lookup (Text.lower name) with
      | some d =>
          rw [hkey] at hok
          exact .inl ⟨d, rfl, (congrArg Prod.snd hok).symm⟩
      | none =>
          rw [hkey] at hok
          simp only [Option.isSome_none, Bool.false_eq_true, if_false] at hok
          split at hok
          · rename_i hnone
            exact .inr ⟨rfl, by simpa using hnone, (congrArg Prod.snd hok).symm⟩
          · cases hok

/-! ### A registration that fails -/

/-- **When a failed registration has changed nothing**: exactly if what was to be registered is no
component.  Otherwise an alias was not free, and the component, whose name was new, stays registered
with the aliases before that one; from then on it is found under its name, and registering it once
more, with whatever aliases, succeeds and does nothing. -/
theorem register_fault (changes : List (Change γ)) {name : String} {component : Option γ}
    {aliases : List String} {replace : Bool} {f : RegistryFault} {r' : Registry γ}
    (h : (after changes).register name component aliases replace = (.error f, r')) :
    (r' = after changes ↔ component = none) ∧
    ((component = none ∧ f = .notGenerator) ∨
      ∃ c added given rest, component = some c ∧ replace = false ∧
        (after changes).components.lookup (Text.lower name) = none ∧
        aliases = added ++ given :: rest ∧
        (∀ a ∈ added, (after changes).isFree (Text.lower name) a = true) ∧
        (after changes).isFree (Text.lower name) given = false ∧
        f = (after changes).conflict given ∧
        r' = (after changes).withComponent (Text.lower name) c added ∧
        r'.find name = .ok c ∧
        ∀ others, r'.register name component others false = (.ok (), r')) := by
  cases component with
  | none =>
      obtain ⟨hf, rfl⟩ := Prod.mk.inj h
      exact ⟨by simp, .inl ⟨rfl, (Except.error.inj hf).symm⟩⟩
  | some c =>
      obtain ⟨hreplace, hnew, added, given, rest, haliases, hfree, hgiven, hf, rfl⟩ :=
        register_eq_error (grounded_after changes) h
      have hthere : ((after changes).withComponent (Text.lower name) c added).components.lookup
          (Text.lower name) = some c := Entries.lookup_put_self ..
      refine ⟨⟨fun hsame => ?_, fun hnone => by cases hnone⟩, .inr ⟨c, added, given, rest, rfl,
        hreplace, hnew, haliases, hfree, hgiven, hf, rfl, find_of_registered hthere,
        fun others => ?_⟩⟩
      · -- The component was not there before.
        rw [hsame, hnew] at hthere
        cases hthere
      · simp [register, hthere]

/-- An alias of another component ends a registration, after the component and a first alias were
stored. -/
theorem register_fault_form :
    ∃ r', (after usualChanges).register "Form" (some .widget)
        ["sheet", "data_class", "late"] false = (.error (.aliasTaken "data_class" "model"), r') ∧
      r' ≠ after usualChanges ∧ r'.find "form" = .ok .widget ∧ r'.find "sheet" = .ok .widget ∧
      r'.isKnown "late" = false := by
  have hfault : (after usualChanges).register "Form" (some .widget)
      ["sheet", "data_class", "late"] false = (.error (.aliasTaken "data_class" "model"),
        ⟨standard.components ++ [("form", .widget)], standard.aliases ++ [("sheet", "form")]⟩) := by
    rfl
  obtain ⟨hsame, -⟩ := register_fault usualChanges hfault
  exact ⟨_, hfault, fun heq => absurd (hsame.1 heq) (by simp), by rfl, by rfl, by decide +kernel⟩

/-! ### Where the names lead -/

/-- Names that differ in the case of letters lead to the same component. -/
theorem find_congr {name other : String}
    (hlower : Text.lower other = Text.lower name) (hknown : r.isKnown name = true) :
    r.find other = r.find name := by
  unfold isKnown at hknown
  unfold find
  dsimp only at hknown ⊢
  rw [hlower]
  cases hcomponent : r.components.lookup (Text.lower name) with
  | some d => rfl
  | none =>
      cases halias : r.aliases.lookup (Text.lower name) with
      | none =>
          rw [hcomponent, halias] at hknown
          cases hknown
      | some target => rfl

/-- With a new component and free aliases for it, names lead where they led, but for its own. -/
theorem Grounded.find_withComponent (h : r.Grounded) (hkey : r.components.lookup key = none)
    {aliases : List String} (hfree : ∀ a ∈ aliases, r.isFree key a = true) {name : String}
    (hknown : r.isKnown name = true) :
    (r.withComponent key c aliases).find name =
      if Text.lower name = key then .ok c else r.find name := by
  by_cases hname : Text.lower name = key
  · rw [if_pos hname]
    refine find_of_registered ?_
    rw [hname]
    exact Entries.lookup_put_self ..
  rw [if_neg hname]
  have hnot := not_mem_of_isKnown hfree hname hknown
  have hcomponents : ∀ n, n ≠ key → (r.withComponent key c aliases).components.lookup n =
      r.components.lookup n := fun n hn => Entries.lookup_put_of_ne hn ..
  have haliases : (r.withComponent key c aliases).aliases.lookup (Text.lower name) =
      r.aliases.lookup (Text.lower name) := by
    show (withAliases key r.aliases aliases).lookup _ = _
    rw [lookup_withAliases, if_neg fun hmem => hnot hmem.2]
  unfold isKnown at hknown
  unfold find
  dsimp only at hknown ⊢
  rw [hcomponents _ hname, haliases]
  cases hcomponent : r.components.lookup (Text.lower name) with
  | some d => rfl
  | none =>
      cases halias : r.aliases.lookup (Text.lower name) with
      | none =>
          rw [hcomponent, halias] at hknown
          cases hknown
      | some target =>
          -- What it stands for was registered before, so it is not the new component.
          obtain ⟨d, hd⟩ := h.lookup halias
          have htarget : target ≠ key := by
            rintro rfl
            rw [hkey] at hd
            cases hd
          dsimp only
          rw [hcomponents _ htarget]

/-- **Where the names lead** after a registration that replaces nothing: where they led before, but
for the name of a new component, which leads to that, also if it was an alias of another one.  So
all names lead where they led exactly if the component was there already, or its name led nowhere,
or to the same. -/
theorem find_register (changes : List (Change γ)) {name : String} {component : Option γ}
    {aliases : List String} {r' : Registry γ}
    (h : (after changes).register name component aliases false = (.ok (), r')) :
    ∃ c, component = some c ∧
      (∀ n, (after changes).isKnown n = true → r'.find n =
        if Text.lower n = Text.lower name ∧
            (after changes).components.lookup (Text.lower name) = none then .ok c
        else (after changes).find n) ∧
      ((∀ n, (after changes).isKnown n = true → r'.find n = (after changes).find n) ↔
        ((after changes).components.lookup (Text.lower name)).isSome = true ∨
          (after changes).isKnown name = false ∨ (after changes).find name = .ok c) := by
  have hgrounded := grounded_after changes
  obtain ⟨c, hc, hcases⟩ := register_eq_ok hgrounded h
  have hfind : ∀ n, (after changes).isKnown n = true → r'.find n =
      if Text.lower n = Text.lower name ∧
          (after changes).components.lookup (Text.lower name) = none then .ok c
      else (after changes).find n := by
    intro n hn
    rcases hcases with ⟨d, hkey, rfl⟩ | ⟨hkey, hfree, rfl⟩
    · rw [hkey, if_neg (by simp)]
    · rw [hgrounded.find_withComponent hkey hfree hn]
      simp only [hkey, and_true]
  refine ⟨c, hc, hfind, fun hall => ?_, fun hsame n hn => ?_⟩
  · cases hkey : (after changes).components.lookup (Text.lower name) with
    | some d => exact .inl rfl
    | none =>
        cases hknown : (after changes).isKnown name with
        | false => exact .inr (.inl rfl)
        | true =>
            refine .inr (.inr ?_)
            rw [← hall name hknown, hfind name hknown, if_pos ⟨rfl, hkey⟩]
  · rw [hfind n hn]
    split
    · rename_i hname
      obtain ⟨hlower, hkey⟩ := hname
      have hknown : (after changes).isKnown name = true := by
        rw [← hn]
        simp only [isKnown, hlower]
      rcases hsame with hthere | hunknown | hfound
      · rw [hkey] at hthere
        cases hthere
      · rw [hunknown] at hknown
        cases hknown
      · rw [find_congr hlower hknown, hfound]
    · rfl

/-- An alias is taken over by a new component of that name. -/
theorem find_register_dataClass :
    ∃ r', (after usualChanges).register "data_class" (some .screen) [] false = (.ok (), r') ∧
      (after usualChanges).find "Data_Class" = .ok .model ∧ r'.find "Data_Class" = .ok .screen := by
  have hok : (after usualChanges).register "data_class" (some .screen) [] false =
      (.ok (), ⟨standard.components ++ [("data_class", .screen)], standard.aliases⟩) := by
    rfl
  obtain ⟨c, hc, hfind, -⟩ := find_register usualChanges hok
  obtain rfl := Option.some.inj hc
  refine ⟨_, hok, by rfl, ?_⟩
  rw [hfind "Data_Class" (by decide +kernel), if_pos (by decide +kernel)]

end DartScaffold.Registry
