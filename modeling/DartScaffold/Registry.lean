/-
**The registry of generators.**

A generator is asked for by the name of its component or by another name, an alias, without regard
to the case of letters.  The registry knows which component a name stands for.  A component may be
registered under any name; registering it again changes nothing, unless it is to be replaced.

Main definitions:

* `Registry`, `Registry.standard` — the registered names, and those at the start;
* `Registry.register`, `Registry.unregister` — adding and removing;
* `Registry.registerGiven` — adding with names that may be any values;
* `Registry.find`, `Registry.isKnown` — looking a name up;
* `Registry.describe` — what is known about a registered component.

Main results:

* `Registry.registerGiven_texts` — names that are texts are registered as they are;
* `Registry.find_of_registered` — a component is found under its own name.
-/

import DartScaffold.Dart.Generator
import DartScaffold.Settings.File

set_option relaxedAutoImplicit false
set_option autoImplicit false

namespace DartScaffold

/-- The registered names: those of components, and aliases for them.  All are in small letters.
What is registered under the name of a component may be of any kind. -/
structure Registry (γ : Type := Dart.Component) where
  components : Entries String γ
  aliases : Entries String String
deriving DecidableEq, Repr, Inhabited

/-- What is known about a registered component. -/
structure ComponentInfo where
  component : Dart.Component
  directory : Path
  aliases : List String
deriving Repr

namespace Registry

variable {γ : Type}

/-! ### Adding and removing -/

/-- The registry that knows nothing. -/
def empty : Registry γ := ⟨[], []⟩

/-- The registry with an alias for a component, unless the alias stands for something else. -/
def addAlias (r : Registry γ) (key given : String) (replace : Bool) :
    Except RegistryFault (Registry γ) :=
  let a := Text.lower given
  if a = key then .ok r
  else if !replace && (r.components.lookup a).isSome then .error (.aliasIsComponent given)
  else
    match if replace then none else (r.aliases.lookup a).filter (· != key) with
    | some taken => .error (.aliasTaken given taken)
    | none => .ok { r with aliases := r.aliases.put a key }

/-- The registry with aliases added one after another, and the fault that ended it. -/
def addAliases (key : String) (replace : Bool) :
    Registry γ → List String → Except RegistryFault Unit × Registry γ
  | r, [] => (.ok (), r)
  | r, given :: rest =>
    match r.addAlias key given replace with
    | .ok r => addAliases key replace r rest
    | .error f => (.error f, r)

/-- The registry with a component under a name and aliases for it; none is no component.  What was
added before a fault stays. -/
def register (r : Registry γ) (name : String) (component : Option γ)
    (aliases : List String) (replace : Bool) : Except RegistryFault Unit × Registry γ :=
  match component with
  | none => (.error .notGenerator, r)
  | some c =>
    let key := Text.lower name
    if (r.components.lookup key).isSome && !replace then (.ok (), r)
    else addAliases key replace { r with components := r.components.put key c } aliases

/-- The texts before the first item that is none, and the misuse of that item as a name. -/
def leadingTexts : List Datum → List String × Except Misuse Unit
  | [] => ([], .ok ())
  | .text s :: rest => ((s :: (leadingTexts rest).1), (leadingTexts rest).2)
  | d :: _ => ([], .error (.lacksOperation d.kindName "lower"))

/-- Registering with names that any value may give.  A value that counts as nothing gives no
aliases, and an alias that is no text is found when its turn comes. -/
def registerGiven (r : Registry γ) (name : Datum) (component : Option γ)
    (aliases : Datum) (replace : Bool) : Except Fault Unit × Registry γ :=
  match component, name.textFor "lower" with
  | some _, .error m => (.error (.misuse m), r)
  | _, found =>
    let name := found.toOption.getD ""
    let isKept := component.isSome && (r.components.lookup (Text.lower name)).isSome && !replace
    let (texts, flaw) :=
      if isKept || !aliases.truthy then ([], .ok ())
      else match aliases.items with
        | .ok ds => leadingTexts ds
        | .error m => ([], .error m)
    match r.register name component texts replace with
    | (.error f, r) => (.error (.registry f), r)
    | (.ok (), r) => (flaw.mapError .misuse, r)

theorem leadingTexts_texts (texts : List String) :
    leadingTexts (texts.map .text) = (texts, .ok ()) := by
  induction texts with
  | nil => rfl
  | cons s rest ih => simp [leadingTexts, ih]

/-- Given by texts, the names are registered as they are. -/
theorem registerGiven_texts (r : Registry γ) (name : String) (component : Option γ)
    (aliases : List String) (replace : Bool) :
    r.registerGiven (.text name) component (.ofTexts aliases) replace =
      ((r.register name component aliases replace).1.mapError .registry,
        (r.register name component aliases replace).2) := by
  cases component with
  | none => rfl
  | some c =>
    by_cases kept : (r.components.lookup (Text.lower name)).isSome && !replace
    · simp only [registerGiven, register, Datum.textFor, Except.toOption, Option.getD_some,
        Option.isSome_some, Bool.true_and, kept, Bool.true_or, if_true]
      rfl
    · have given : (if !(Datum.ofTexts aliases).truthy then ([], .ok ())
          else match (Datum.ofTexts aliases).items with
            | .ok ds => leadingTexts ds
            | .error m => ([], .error m)) = (aliases, (.ok () : Except Misuse Unit)) := by
        cases aliases with
        | nil => rfl
        | cons a rest =>
          change leadingTexts ((a :: rest).map .text) = _
          exact leadingTexts_texts (a :: rest)
      have kept : ((r.components.lookup (Text.lower name)).isSome && !replace) = false := by
        simpa using kept
      simp only [registerGiven, Datum.textFor, Except.toOption, Option.getD_some,
        Option.isSome_some, Bool.true_and, kept, Bool.false_or, given]
      cases r.register name (some c) aliases replace with
      | mk result r' => cases result <;> rfl

/-- The registry without a component and its aliases. -/
def unregister (r : Registry γ) (name : String) : Registry γ :=
  let key := Text.lower name
  ⟨r.components.erase key, r.aliases.filter fun (_, target) => target != key⟩

/-- The registry at the start: every component under its name, and aliases for most. -/
def standard : Registry where
  components := Dart.Component.all.map fun c => (c.name, c)
  aliases := [("data_class", "model"), ("api_client", "service"), ("component", "widget"),
    ("transport", "api_base")]

/-! ### Looking up -/

/-- The names of the registered components, in order. -/
def names (r : Registry γ) : List String := Datum.sortedTexts r.components.keys

/-- The component that a name stands for. -/
def find (r : Registry γ) (name : String) : Except Fault γ :=
  let key := Text.lower name
  match r.components.lookup key with
  | some c => .ok c
  | none =>
    match r.aliases.lookup key with
    | some target =>
      match r.components.lookup target with
      | some c => .ok c
      | none => .error (.misuse (.missingMember target))
    | none => .error (.registry (.unknown name r.names))

/-- Whether a name stands for something. -/
def isKnown (r : Registry γ) (name : String) : Bool :=
  let key := Text.lower name
  (r.components.lookup key).isSome || (r.aliases.lookup key).isSome

/-- The aliases of a component, in order. -/
def aliasesOf (r : Registry γ) (name : String) : List String :=
  let key := Text.lower name
  Datum.sortedTexts ((r.aliases.filter fun (_, target) => target == key).map Prod.fst)

/-- What is known about the component that a name stands for. -/
def describe (r : Registry) (name : String) : Except Fault ComponentInfo := do
  let c ← r.find name
  let key := Text.lower name
  let directory ← (Dart.directory Settings.standard.output c.folder : Except Misuse Path)
  return ⟨c, directory, r.aliasesOf ((r.aliases.lookup key).getD key)⟩

/-- A component is found under its own name. -/
theorem find_of_registered {r : Registry γ} {name : String} {c : γ}
    (h : r.components.lookup (Text.lower name) = some c) : r.find name = .ok c := by
  simp [find, h]

/-! ### Making generators -/

/-- What a generator's settings are given by: settings, or a value that says where they are. -/
inductive SettingsSource where
  | settings (s : Settings)
  | value (d : Datum)

/-- The settings that a source gives: a path of a file, overrides, or the usual settings. -/
def settingsOf (address : Datum) : SettingsSource → Run Settings
  | .settings s => return s
  | .value (.text file) => Settings.load address (.text file) .null
  | .value (.object overrides) => Settings.load address .null (.object overrides)
  | .value .null => Settings.load address .null .null
  | .value d => throw (.registry (.badSettings d.kindName))

/-- A generator for what a name stands for. -/
def generator (r : Registry) (address : Datum) (name : String) (source : SettingsSource) :
    Run Dart.Generator := do
  let c ← (r.find name : Except Fault _)
  Dart.Generator.make c (← settingsOf address source)

end Registry

end DartScaffold
