/-
**The names of a service's methods.**

A service has the five usual methods and one for each route beyond the usual operations.  The
method of a route is named after the route; if that name is taken, the verb of the request is put
behind it, and if that is taken as well, the first number from 2 on that leaves a free name.  Since
a name with a verb or a number may be the one that a later route asks for, what counts is that each
name is free of all names before it: this is what the search promises, and it carries over from one
route to the next.

Main definitions:

* `Dart.Chosen` — the name that the search for a free one ends with;
* `Dart.ChosenInTurn` — the names of several routes, each free of those before it.

Main results:

* `Naming.find?_free` — of more candidates than there are taken names, the first free one is found;
* `Dart.chosen_freshName` — **the search ends**, with a name that is free;
* `Dart.chosenInTurn_customMethods` — the methods of further routes are named in turn;
* `Dart.methodNames_service` — **the names of a service's methods are distinct**, and those of
  further routes may be used.
-/

import Mathlib
import DartScaffold.Proofs.Naming.Memory

set_option relaxedAutoImplicit false
set_option autoImplicit false

namespace DartScaffold

/-! ### Free names -/

/-- Of more candidates than there are taken names, the first free one is found. -/
theorem Naming.find?_free {f : Nat → String} (hf : Function.Injective f) {taken : List String}
    {n : Nat} (hn : taken.length < n) :
    ∃ k, ((List.range n).map f).find? (fun s => !taken.contains s) = some (f k) ∧
      f k ∉ taken ∧ ∀ j < k, f j ∈ taken := by
  obtain ⟨i, hi, hfree⟩ : ∃ i < n, f i ∉ taken := by
    -- Otherwise all candidates, which are different, are among the taken names, which are fewer.
    by_contra hno
    push Not at hno
    have hsub : (List.range n).map f ⊆ taken := by
      intro s hs
      obtain ⟨i, hi, rfl⟩ := List.mem_map.1 hs
      exact hno i (List.mem_range.1 hi)
    have hle := (List.nodup_range.map hf).length_le_of_subset hsub
    rw [List.length_map, List.length_range] at hle
    omega
  have hsome : ((List.range n).find? fun k => !taken.contains (f k)).isSome = true := by
    rw [List.find?_isSome]
    exact ⟨i, List.mem_range.2 hi, by simpa using hfree⟩
  obtain ⟨k, hk⟩ := Option.isSome_iff_exists.1 hsome
  obtain ⟨hkfree, -, hbefore⟩ := List.find?_range_eq_some.1 hk
  refine ⟨k, ?_, by simpa using hkfree, ?_⟩
  · rw [List.find?_map]
    exact congrArg (Option.map f) hk
  · intro j hj
    simpa using hbefore j hj

namespace Dart

open Naming (isMemberName)

/-- The name that the search for a free one ends with: the name itself, the name with the verb
behind it, or else that with the first number from 2 on that leaves a free name. -/
inductive Chosen (taken : List String) (verb name : String) : String → Prop
  | own (free : name ∉ taken) : Chosen taken verb name name
  | verb (own : name ∈ taken) (free : name ++ verb ∉ taken) : Chosen taken verb name (name ++ verb)
  | number (k : Nat) (own : name ∈ taken) (plain : name ++ verb ∈ taken)
      (before : ∀ j < k, name ++ verb ++ toString (j + 2) ∈ taken)
      (free : name ++ verb ++ toString (k + 2) ∉ taken) :
      Chosen taken verb name (name ++ verb ++ toString (k + 2))

/-- What is chosen is free. -/
theorem Chosen.not_mem {taken : List String} {verb name s : String}
    (h : Chosen taken verb name s) : s ∉ taken := by
  cases h with
  | own free => exact free
  | verb _ free => exact free
  | number _ _ _ _ free => exact free

/-- Different numbers behind a name make different names. -/
theorem append_number_injective (base : String) :
    Function.Injective fun n : Nat => base ++ toString (n + 2) := by
  intro i j h
  have hs := congrArg String.toList h
  rw [String.toList_append, String.toList_append, List.append_cancel_left_eq,
    String.toList_inj] at hs
  have := Nat.repr_inj.1 hs
  omega

/-- Among the numbered names that are tried there is a free one. -/
theorem numbered_eq (taken : List String) (base : String) :
    ∃ k, numbered taken base = base ++ toString (k + 2) ∧
      base ++ toString (k + 2) ∉ taken ∧ ∀ j < k, base ++ toString (j + 2) ∈ taken := by
  obtain ⟨k, hfind, hfree, hbefore⟩ :=
    Naming.find?_free (append_number_injective base) (Nat.lt_succ_self taken.length)
  refine ⟨k, ?_, hfree, hbefore⟩
  unfold numbered
  rw [hfind, Option.getD_some]

/-- **The search for a free name ends with the name that is chosen.** -/
theorem chosen_freshName (taken : List String) (verb name : String) :
    Chosen taken (Naming.pascal verb) name (freshName taken verb name) := by
  unfold freshName
  by_cases hown : name ∈ taken
  · have hc : taken.contains name = true := by simpa using hown
    simp only [hc, if_true]
    by_cases hplain : name ++ Naming.pascal verb ∈ taken
    · have hc' : taken.contains (name ++ Naming.pascal verb) = true := by simpa using hplain
      simp only [hc', if_true]
      obtain ⟨k, hk, hfree, hbefore⟩ := numbered_eq taken (name ++ Naming.pascal verb)
      rw [hk]
      exact .number k hown hplain hbefore hfree
    · have hc' : taken.contains (name ++ Naming.pascal verb) = false := by simpa using hplain
      simp only [hc', Bool.false_eq_true, if_false]
      exact .verb hown hplain
  · have hc : taken.contains name = false := by simpa using hown
    simp only [hc, Bool.false_eq_true, if_false]
    exact .own hown

/-! ### The shape of what is chosen -/

/-- The verb of a request is one that the transport knows. -/
theorem verbOf_mem (r : Route) : verbOf r ∈ transportVerbs := by
  unfold verbOf
  by_cases h : transportVerbs.contains (Text.lower r.primary) = true
  · simp only [h, if_true]
    simpa using h
  · simp only [h, Bool.false_eq_true, if_false]
    decide

/-- The verb of a request is one of those put behind names. -/
theorem pascal_verbOf_mem (r : Route) : Naming.pascal (verbOf r) ∈ endings := by
  have hall : transportVerbs.all (fun v => endings.contains (Naming.pascal v)) = true := by
    decide +kernel
  simpa using List.all_eq_true.1 hall _ (verbOf_mem r)

/-- A verb or a number behind the name of a method leaves it one. -/
theorem Chosen.isMemberName {taken : List String} {verb name s : String}
    (h : Chosen taken (Naming.pascal verb) name s) (hname : isMemberName name = true) :
    isMemberName s = true := by
  have hverb : Naming.isMemberName (name ++ Naming.pascal verb) = true :=
    Naming.isMemberName_append hname Naming.isAlphanum_of_mem_pascal
  cases h with
  | own => exact hname
  | verb => exact hverb
  | number k =>
      exact Naming.isMemberName_append hverb fun c hc =>
        Naming.isAlphanum_of_isDigit (isDigit_of_mem_toString hc)

/-- What is chosen is not taken by the language. -/
theorem Chosen.isTaken {taken : List String} {verb name s : String}
    (h : Chosen taken verb name s) (hverb : verb ∈ endings)
    (hname : sanitizer.isTaken name = false) : sanitizer.isTaken s = false := by
  cases h with
  | own => exact hname
  | verb => exact isTaken_append_ending hverb name
  | number k => exact isTaken_append_number _ _

/-! ### Routes in turn -/

/-- The names of several routes, each chosen so that it is free of those before it. -/
inductive ChosenInTurn (c : Context) : List String → List Route → List String → Prop
  | nil (taken : List String) : ChosenInTurn c taken [] []
  | cons {taken names : List String} {r : Route} {rest : List Route} {name : String}
      (first : Chosen taken (Naming.pascal (verbOf r)) (c.names.field (.text r.endpoint.tag)) name)
      (more : ChosenInTurn c (name :: taken) rest names) :
      ChosenInTurn c taken (r :: rest) (name :: names)

/-- The methods of further routes are named in turn. -/
theorem chosenInTurn_customMethods (c : Context) (model : String) (taken : List String)
    (routes : List Route) :
    ChosenInTurn c taken routes ((customMethods c model taken routes).map Method.name) := by
  induction routes generalizing taken with
  | nil => exact .nil taken
  | cons r rest ih => exact .cons (chosen_freshName taken _ _) (ih _)

namespace ChosenInTurn

variable {c : Context} {taken names : List String} {routes : List Route}

/-- There is one name for each route. -/
theorem length_eq (h : ChosenInTurn c taken routes names) : names.length = routes.length := by
  induction h with
  | nil => rfl
  | cons _ _ ih => rw [List.length_cons, List.length_cons, ih]

/-- **Names that are chosen in turn are distinct**, and none of them was taken before. -/
theorem nodup (h : ChosenInTurn c taken routes names) :
    names.Nodup ∧ ∀ name ∈ names, name ∉ taken := by
  induction h with
  | nil => exact ⟨List.nodup_nil, by simp⟩
  | @cons taken names r rest name first _ ih =>
      obtain ⟨hnodup, hfree⟩ := ih
      -- For the later names this one is taken, so none of them is the same.
      have hname : name ∉ names := fun hmem => hfree name hmem (List.mem_cons_self ..)
      refine ⟨List.nodup_cons.2 ⟨hname, hnodup⟩, ?_⟩
      intro s hs
      rcases List.mem_cons.1 hs with rfl | hs
      · exact first.not_mem
      · exact fun hmem => hfree s hs (List.mem_cons_of_mem _ hmem)

/-- Names that are chosen in turn have the shape of a member's name and are not taken by the
language. -/
theorem usable (h : ChosenInTurn c taken routes names) (hc : Learned c.names) :
    ∀ name ∈ names, isMemberName name = true ∧ name ∉ keywords ∧ name ∉ memberNames := by
  induction h with
  | nil => simp
  | @cons taken names r rest name first _ ih =>
      intro s hs
      rcases List.mem_cons.1 hs with rfl | hs
      · have hfree := first.isTaken (pascal_verbOf_mem r) (isTaken_field hc _)
        refine ⟨first.isMemberName (isMemberName_field hc _), ?_⟩
        exact not_or.1 fun hmem => by simp [(isTaken_iff s).2 hmem] at hfree
      · exact ih s hs

end ChosenInTurn

/-! ### The methods of a service -/

theorem map_name_usualMethods (c : Context) (model : String) :
    (usualMethods c model).map Method.name = usualNames := rfl

/-- **The names of a service's methods.**  They are the five usual names and, in the order of the
routes, one name for each route beyond the usual operations.  No name occurs twice, and the names
of further routes may be used in the language.  The usual routes contribute nothing. -/
theorem methodNames_service {c : Context} (hc : Learned c.names) (m : Model) :
    (∃ own, (service c m).methodNames = ["getAll", "getById", "create", "update", "delete"] ++ own ∧
      ChosenInTurn c usualNames (m.routes.filter fun r => !r.endpoint.isStandard) own ∧
      own.length = (m.routes.filter fun r => !r.endpoint.isStandard).length ∧
      (service c m).methodNames.Nodup ∧
      ∀ name ∈ own, isMemberName name = true ∧ name ∉ keywords ∧ name ∉ memberNames) ∧
    service c (m.withRoutes (m.routes.filter fun r => !r.endpoint.isStandard)) = service c m := by
  have hturn := chosenInTurn_customMethods c (c.typeName m) usualNames m.customRoutes
  obtain ⟨hnodup, hfree⟩ := hturn.nodup
  have hnames : (service c m).methodNames = usualNames ++
      (customMethods c (c.typeName m) usualNames m.customRoutes).map Method.name := by
    simp only [Service.methodNames, service, List.map_append, map_name_usualMethods]
  refine ⟨⟨_, hnames, hturn, hturn.length_eq, ?_, hturn.usable hc⟩, service_of_customRoutes c m⟩
  rw [hnames]
  refine List.nodup_append.2 ⟨by decide, hnodup, ?_⟩
  rintro s hs t ht rfl
  exact hfree s ht hs

/-- A model with a usual route, and further ones that ask for the same names. -/
def archiveModel : Model :=
  let further (tag : String) : Route :=
    { (default : Route) with primary := "GET", endpoint := .other tag }
  let usual : Route := { (default : Route) with endpoint := .standard .index }
  { (default : Model) with
    className := "User"
    routes := [further "archive", usual, further "archive_get", further "archive", further "get"] }

theorem methodNames_service_archive :
    Learned sanitizer.names ∧
      (service ⟨.standard, sanitizer.names⟩ archiveModel).methodNames =
        ["getAll", "getById", "create", "update", "delete", "archive", "archiveGet",
          "archiveGet2", "getValue"] ∧
      (service ⟨.standard, sanitizer.names⟩ archiveModel).methodNames.Nodup := by
  obtain ⟨⟨own, -, -, -, hnodup, -⟩, -⟩ :=
    methodNames_service (c := ⟨.standard, sanitizer.names⟩) .new archiveModel
  exact ⟨.new, by decide +kernel, hnodup⟩

end Dart

end DartScaffold
