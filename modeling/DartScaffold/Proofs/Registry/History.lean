/-
**A registry through its history.**

A registry knows nothing at first and is changed step by step: components are registered, under
whatever names and with whatever aliases, and removed again, and a registration may fail half way.
Through all of this every alias stands for a registered component.  So a name is known exactly if it
leads to a component, and what is told of any other name is that it is unknown.

Main definitions:

* `Registry.Change`, `Registry.after` — a change of a registry, and the registry after several;
* `Registry.Grounded` — every alias stands for a registered component.

Main results:

* `Registry.Grounded.apply`, `Registry.grounded_after` — a change leaves the aliases grounded, and
  so they are after any changes;
* `Registry.Grounded.find_cases` — what looking up a name gives;
* `Registry.find_after` — **no alias hangs in the air, and a name is known exactly if it is found**.
-/

import DartScaffold.Registry

set_option relaxedAutoImplicit false
set_option autoImplicit false

namespace DartScaffold.Registry

variable {γ : Type} {r : Registry γ} {key : String}

/-! ### Changes -/

/-- A change of a registry.  A component is registered with names that any values may give. -/
inductive Change (γ : Type) where
  | register (name : Datum) (component : Option γ) (aliases : Datum) (replace : Bool)
  | unregister (name : String)

/-- The registry after a change; a registration that fails leaves what it came to. -/
def apply (r : Registry γ) : Change γ → Registry γ
  | .register name component aliases replace =>
    (r.registerGiven name component aliases replace).2
  | .unregister name => r.unregister name

/-- The registry after changes of the one that knows nothing. -/
def after (changes : List (Change γ)) : Registry γ := changes.foldl apply empty

/-- The changes that make the registry at the start. -/
def usualChanges : List (Change Dart.Component) := [
  .register (.text "model") (some .model) (.list [.text "data_class"]) false,
  .register (.text "service") (some .service) (.list [.text "api_client"]) false,
  .register (.text "widget") (some .widget) (.list [.text "component"]) false,
  .register (.text "screen") (some .screen) .null false,
  .register (.text "api_base") (some .transport) (.list [.text "transport"]) false]

/-- The registry at the start is one of those that changes lead to. -/
theorem after_usualChanges : after usualChanges = standard := by decide +kernel

/-- Whatever gives the names, a component is registered under texts, or nothing happens. -/
theorem registerGiven_cases (r : Registry γ) (name : Datum) (component : Option γ)
    (aliases : Datum) (replace : Bool) :
    (r.registerGiven name component aliases replace).2 = r ∨
      ∃ n texts, (r.registerGiven name component aliases replace).2 =
        (r.register n component texts replace).2 := by
  unfold registerGiven
  split
  · exact .inl rfl
  · dsimp only
    split <;> rename_i h <;> exact .inr ⟨_, _, (congrArg Prod.snd h).symm⟩

/-! ### Aliases that stand for components -/

/-- Every alias stands for a registered component. -/
def Grounded (r : Registry γ) : Prop :=
  ∀ e ∈ r.aliases, (r.components.lookup e.2).isSome = true

theorem grounded_empty : (empty : Registry γ).Grounded := by
  intro e he
  cases he

/-- An alias that is added is written, or it was the name itself. -/
theorem addAlias_eq_ok {r' : Registry γ} {given : String} {replace : Bool}
    (h : r.addAlias key given replace = .ok r') :
    r' = r ∨ r' = { r with aliases := r.aliases.put (Text.lower given) key } := by
  unfold addAlias at h
  dsimp only at h
  split at h
  · exact .inl (Except.ok.inj h).symm
  · split at h
    · cases h
    · split at h
      · cases h
      · exact .inr (Except.ok.inj h).symm

/-- The aliases of a registered component are grounded, however many are added. -/
theorem Grounded.addAliases (h : r.Grounded) (hkey : (r.components.lookup key).isSome = true)
    (replace : Bool) (aliases : List String) : (addAliases key replace r aliases).2.Grounded := by
  induction aliases generalizing r with
  | nil => exact h
  | cons given rest ih =>
      rw [Registry.addAliases]
      split
      · rename_i r' hadd
        rcases addAlias_eq_ok hadd with rfl | rfl
        · exact ih h hkey
        · refine ih (fun e he => ?_) hkey
          rcases Entries.mem_put he with rfl | he
          · exact hkey
          · exact h e he
      · exact h

/-- A further component takes none away. -/
theorem Grounded.put (h : r.Grounded) (key : String) (c : γ) :
    Grounded { r with components := r.components.put key c } := by
  intro e he
  show ((r.components.put key c).lookup e.2).isSome = true
  rw [Entries.lookup_put]
  split
  · rfl
  · exact h e he

theorem Grounded.register (h : r.Grounded) (name : String) (component : Option γ)
    (aliases : List String) (replace : Bool) :
    (r.register name component aliases replace).2.Grounded := by
  cases component with
  | none => exact h
  | some c =>
      rw [Registry.register]
      split
      · exact h
      · refine (h.put _ c).addAliases ?_ replace aliases
        rw [Entries.lookup_put_self]
        rfl

/-- With a component its aliases go, so none is left that stood for it. -/
theorem Grounded.unregister (h : r.Grounded) (name : String) : (r.unregister name).Grounded := by
  intro e he
  obtain ⟨hmem, hne⟩ := List.mem_filter.1 he
  show ((r.components.erase (Text.lower name)).lookup e.2).isSome = true
  rw [Entries.lookup_erase, if_neg (bne_iff_ne.1 hne)]
  exact h e hmem

/-- **A change leaves the aliases grounded.** -/
theorem Grounded.apply (h : r.Grounded) (change : Change γ) : (r.apply change).Grounded := by
  cases change with
  | register name component aliases replace =>
      rw [Registry.apply]
      rcases registerGiven_cases r name component aliases replace with hsame | ⟨n, texts, htexts⟩
      · rw [hsame]
        exact h
      · rw [htexts]
        exact h.register n component texts replace
  | unregister name => exact h.unregister name

theorem Grounded.foldl (h : r.Grounded) (changes : List (Change γ)) :
    (changes.foldl Registry.apply r).Grounded := by
  induction changes generalizing r with
  | nil => exact h
  | cons change changes ih => exact ih (h.apply change)

/-- After any changes the aliases are grounded. -/
theorem grounded_after (changes : List (Change γ)) : (after changes).Grounded :=
  grounded_empty.foldl changes

/-! ### Looking up -/

/-- An alias that is found stands for a component. -/
theorem Grounded.lookup (h : r.Grounded) {name target : String}
    (htarget : r.aliases.lookup name = some target) :
    ∃ c, r.components.lookup target = some c := by
  exact Option.isSome_iff_exists.1 (h (name, target) (Entries.mem_of_lookup htarget))

/-- **What looking up a name gives**: the component that it leads to, or that it is unknown. -/
theorem Grounded.find_cases (h : r.Grounded) (name : String) :
    (r.isKnown name = true ∧ ∃ c, r.find name = .ok c) ∨
      (r.isKnown name = false ∧
        r.find name = .error (.registry (.unknown name r.names))) := by
  unfold isKnown find
  dsimp only
  cases hcomponent : r.components.lookup (Text.lower name) with
  | some c => exact .inl ⟨rfl, c, rfl⟩
  | none =>
      cases halias : r.aliases.lookup (Text.lower name) with
      | none => exact .inr ⟨rfl, rfl⟩
      | some target =>
          obtain ⟨c, hc⟩ := h.lookup halias
          refine .inl ⟨rfl, c, ?_⟩
          dsimp only
          rw [hc]

/-- **No alias hangs in the air.**  Whatever components were registered and removed before, and
whether that failed or not, every alias stands for a registered component.  So a name is known
exactly if a component is found for it, and of any other name it is told that it is unknown. -/
theorem find_after (changes : List (Change γ)) :
    (∀ e ∈ (after changes).aliases, ∃ c, (after changes).components.lookup e.2 = some c) ∧
    ∀ name,
      ((after changes).isKnown name = true ↔ ∃ c, (after changes).find name = .ok c) ∧
      ((after changes).isKnown name = false → (after changes).find name =
        .error (.registry (.unknown name (after changes).names))) := by
  have hgrounded := grounded_after changes
  refine ⟨fun e he => Option.isSome_iff_exists.1 (hgrounded e he), fun name => ?_⟩
  rcases hgrounded.find_cases name with ⟨hknown, c, hc⟩ | ⟨hunknown, herror⟩
  · refine ⟨⟨fun _ => ⟨c, hc⟩, fun _ => hknown⟩, fun hnot => ?_⟩
    rw [hknown] at hnot
    cases hnot
  · refine ⟨⟨fun hnot => ?_, fun ⟨c, hc⟩ => ?_⟩, fun _ => herror⟩
    · rw [hunknown] at hnot
      cases hnot
    · rw [herror] at hc
      cases hc

/-- A history with a registration that fails at its second alias, an alias that comes to stand for
something else, and a component that is removed with its aliases. -/
def mixedChanges : List (Change Dart.Component) := usualChanges ++ [
  .register (.text "Form") (some .widget) (.list [.text "sheet", .text "data_class"]) false,
  .register (.text "form") (some .screen) (.list [.text "API_client"]) true,
  .unregister "Model"]

theorem find_after_mixedChanges :
    (after mixedChanges).aliases = [("api_client", "form"), ("component", "widget"),
      ("transport", "api_base"), ("sheet", "form")] ∧
    (∃ c, (after mixedChanges).components.lookup "form" = some c) ∧
    (after mixedChanges).find "data_class" =
      .error (.registry (.unknown "data_class" (after mixedChanges).names)) := by
  have haliases : (after mixedChanges).aliases = [("api_client", "form"), ("component", "widget"),
      ("transport", "api_base"), ("sheet", "form")] := by decide +kernel
  refine ⟨haliases, ?_, ?_⟩
  · exact (find_after mixedChanges).1 ("sheet", "form") (by rw [haliases]; decide)
  · exact ((find_after mixedChanges).2 "data_class").2 (by decide +kernel)

end DartScaffold.Registry
