/-
**Routes grouped by resource.**

An analysis keeps its routes in one list and also in groups, one for each name of a resource.  The
groups are told by the list alone: their names come in the order of first occurrence, and a group
holds the routes of its name, in order.  The names of groups are compared letter by letter, but a
model answers to several names and without regard to case, so more than one group may be named for
it.  It is given the first of them, and the routes of the others are lost to it.

Main definitions:

* `Route.groupName?` — the name that a route is grouped under;
* `Routing.groupNames`, `Routing.group` — the names of the groups of a list, and the group of a
  name;
* `Routing.Analysis.IsGrouped` — the groups of an analysis are those of its routes;
* `Routing.isNamedFor` — a route whose resource may be named for a model.

Main results:

* `Routing.Analysis.isGrouped_add`, `Routing.Analysis.isGrouped_ofEntries` — a further route keeps
  the groups in step with the list, and so they are after any number of routes;
* `Routing.Analysis.routesForModel_of_isGrouped` — the routes of a model are those of one resource;
* `Routing.routesForModel_analyze` — **which routes a model is given**, and when none is lost.
-/

import Mathlib
import DartScaffold.Proofs.Occurrences
import DartScaffold.Routing.Analysis

set_option relaxedAutoImplicit false
set_option autoImplicit false

namespace DartScaffold

/-! ### Entries made from their keys -/

/-- Writing among entries that are made from their keys: the entry of the key is another one, and a
new key comes last. -/
theorem Entries.put_map {κ α : Type} [DecidableEq κ] (f : κ → α) (key : κ) (value : α)
    {keys : List κ} (h : keys.Nodup) :
    Entries.put key value (keys.map fun k => (k, f k)) =
      (if key ∈ keys then keys else keys ++ [key]).map fun k =>
        (k, if k = key then value else f k) := by
  induction keys with
  | nil => simp [Entries.put]
  | cons k keys ih =>
      obtain ⟨hk, hkeys⟩ := List.nodup_cons.1 h
      by_cases hkey : k = key
      · -- The key is here, so it is nowhere else.
        subst hkey
        have hrest : ∀ j ∈ keys, (j, f j) = (j, if j = k then value else f j) := by
          intro j hj
          have hjk : j ≠ k := fun hjk => hk (hjk ▸ hj)
          rw [if_neg hjk]
        simpa [Entries.put] using hrest
      · have hmem : key ∈ k :: keys ↔ key ∈ keys := by simp [Ne.symm hkey]
        simp only [List.map_cons, Entries.put, if_neg hkey, ih hkeys, hmem]
        by_cases hin : key ∈ keys <;> simp [hin, hkey]

/-! ### Groups of a list of routes -/

/-- The name that a route is grouped under: that of its resource, if it has letters. -/
def Route.groupName? (r : Route) : Option String := r.resource.filter (· != "")

theorem Route.groupName?_eq_some_iff (r : Route) (name : String) :
    r.groupName? = some name ↔ r.resource = some name ∧ name ≠ "" := by
  simp [Route.groupName?]

namespace Routing

/-- The names of the groups, in the order of first occurrence. -/
def groupNames (routes : List Route) : List String :=
  (routes.filterMap Route.groupName?).eraseDups

/-- The group of a name. -/
def group (routes : List Route) (name : String) : List Route :=
  routes.filter fun r => r.groupName? == some name

theorem groupNames_append_singleton (routes : List Route) (r : Route) :
    groupNames (routes ++ [r]) =
      match r.groupName? with
      | none => groupNames routes
      | some name =>
        if name ∈ groupNames routes then groupNames routes else groupNames routes ++ [name] := by
  unfold groupNames
  rw [List.filterMap_append]
  cases hr : r.groupName? with
  | none => simp [hr]
  | some name =>
      have hlast : [r].filterMap Route.groupName? = [name] := by simp [hr]
      simp only [hlast, eraseDups_append_singleton, List.mem_eraseDups]

theorem group_append_singleton (routes : List Route) (r : Route) (name : String) :
    group (routes ++ [r]) name =
      group routes name ++ if r.groupName? = some name then [r] else [] := by
  unfold group
  rw [List.filter_append]
  by_cases h : r.groupName? = some name <;> simp [h]

/-- A name that no group has leads to no routes. -/
theorem group_eq_nil {routes : List Route} {name : String} (h : name ∉ groupNames routes) :
    group routes name = [] := by
  rw [groupNames, List.mem_eraseDups, List.mem_filterMap] at h
  rw [group, List.filter_eq_nil_iff]
  intro r hr hname
  exact h ⟨r, hr, by simpa using hname⟩

namespace Analysis

variable {a : Analysis}

/-- The groups of an analysis are those of its routes. -/
def IsGrouped (a : Analysis) : Prop :=
  a.groups = (groupNames a.routes).map fun name => (name, group a.routes name)

theorem isGrouped_empty : empty.IsGrouped := rfl

/-- What stands among the groups under a name. -/
theorem IsGrouped.lookup_eq (h : a.IsGrouped) (name : String) :
    a.groups.lookup name =
      if name ∈ groupNames a.routes then some (group a.routes name) else none := by
  rw [show a.groups = _ from h]
  induction groupNames a.routes with
  | nil => rfl
  | cons n names ih =>
      rw [List.map_cons, List.lookup_cons, ih]
      by_cases hn : name = n
      · simp [hn]
      · have hne : (name == n) = false := by simp [hn]
        simp [hn, hne]

/-- What the groups hold under a name. -/
theorem IsGrouped.lookup (h : a.IsGrouped) (name : String) :
    (a.groups.lookup name).getD [] = group a.routes name := by
  rw [h.lookup_eq]
  by_cases hname : name ∈ groupNames a.routes
  · rw [if_pos hname]
    rfl
  · rw [if_neg hname, group_eq_nil hname]
    rfl

/-- **A further route keeps the groups in step with the list.** -/
theorem groups_add (a : Analysis) (r : Route) : (a.add r).groups =
    match r.groupName? with
    | some name => a.groups.put name (((a.groups.lookup name).getD []) ++ [r])
    | none => a.groups := rfl

theorem isGrouped_add (h : a.IsGrouped) (r : Route) : (a.add r).IsGrouped := by
  unfold IsGrouped
  rw [groups_add, routes_add, groupNames_append_singleton]
  cases hr : r.groupName? with
  | none => simp only [group_append_singleton, hr, reduceCtorEq, if_false, List.append_nil]; exact h
  | some name =>
      have hput := Entries.put_map (group a.routes) name (group a.routes name ++ [r])
        (nodup_eraseDups (a.routes.filterMap Route.groupName?))
      simp only [h.lookup]
      rw [show a.groups = _ from h]
      refine hput.trans ?_
      -- Only the group of this name has got a further route.
      refine List.map_congr_left fun other _ => ?_
      rw [group_append_singleton, hr]
      by_cases hother : other = name
      · simp [hother]
      · simp [hother, Ne.symm hother]

theorem isGrouped_foldlM {entries : List Entry} {start : Analysis} (hstart : start.IsGrouped)
    (h : entries.foldlM (fun a e => return a.add (← analyzeEntry e)) start = .ok a) :
    a.IsGrouped := by
  induction entries generalizing start with
  | nil =>
      obtain rfl : start = a := Except.ok.inj h
      exact hstart
  | cons e entries ih =>
      rw [List.foldlM_cons] at h
      cases he : analyzeEntry e with
      | error fault =>
          rw [he] at h
          cases h
      | ok r =>
          rw [he] at h
          exact ih (isGrouped_add hstart r) h

/-- The groups of several routes. -/
theorem isGrouped_ofEntries {entries : List Entry} (h : ofEntries entries = .ok a) :
    a.IsGrouped :=
  isGrouped_foldlM isGrouped_empty h

end Analysis

/-- Whatever is analyzed, the routes are grouped. -/
theorem isGrouped_analyze {table : Option (List Entry)} {subject : Subject} {a : Analysis}
    (h : analyze table subject = .ok a) : a.IsGrouped := by
  have hapi : ∀ table : Option (List Entry), analyzeApi table = .ok a → a.IsGrouped := by
    intro table h
    cases table with
    | none => cases h
    | some entries =>
        cases hchosen : entries.filterM fun e =>
            (return Text.startsWith apiRoot (← pathOf e) : Except Fault Bool) with
        | error fault =>
            rw [analyzeApi, hchosen] at h
            cases h
        | ok chosen =>
            rw [analyzeApi, hchosen] at h
            exact Analysis.isGrouped_ofEntries h
  -- A subject is analyzed by its entries, or by the table, or there is nothing to analyze.
  cases subject with
  | unspecified => exact hapi table h
  | router entries => exact Analysis.isGrouped_ofEntries h
  | entries entries => exact Analysis.isGrouped_ofEntries h
  | entry entry => exact Analysis.isGrouped_ofEntries h
  | value d =>
      cases d with
      | null => exact hapi table h
      | list ds =>
          cases ds with
          | nil =>
              obtain rfl := Except.ok.inj h
              exact Analysis.isGrouped_empty
          | cons d ds => cases h
      | object members =>
          cases members with
          | nil =>
              obtain rfl := Except.ok.inj h
              exact Analysis.isGrouped_empty
          | cons e members => cases h
      | _ => cases h

/-! ### The routes of a model -/

/-- A route whose resource may be named for a model, without regard to the case of letters. -/
def isNamedFor (model : String) (r : Route) : Bool :=
  r.resource.any fun name => (Analysis.resourceNames model).contains (Text.lower name)

theorem any_groupName?_eq (model : String) (r : Route) :
    (r.groupName?.any fun name => (Analysis.resourceNames model).contains (Text.lower name)) =
      (isNamedFor model r && r.resource != some "") := by
  unfold isNamedFor Route.groupName?
  cases r.resource with
  | none => rfl
  | some name =>
      by_cases hname : name = "" <;> simp [hname, Option.filter]

/-- **The routes of a model are those of one resource**: of the first one in the list that has
letters and may be named for the model. -/
theorem Analysis.routesForModel_of_isGrouped {a : Analysis} (h : a.IsGrouped) (model : String) :
    a.routesForModel model =
      match a.routes.find? fun r => isNamedFor model r && r.resource != some "" with
      | none => []
      | some first => a.routes.filter fun r => r.resource == first.resource := by
  -- The first group that is named for the model is that of the first route that is.
  have hfind : (groupNames a.routes).find?
        (fun name => (resourceNames model).contains (Text.lower name)) =
      (a.routes.find? fun r => isNamedFor model r && r.resource != some "").bind
        Route.groupName? := by
    rw [groupNames, find?_eraseDups, List.find?_filterMap]
    simp only [any_groupName?_eq]
  unfold routesForModel
  rw [show a.groups = _ from h, List.find?_map]
  have hcomp : ((fun g : String × List Route => (resourceNames model).contains (Text.lower g.1)) ∘
      fun name => (name, group a.routes name)) =
        fun name => (resourceNames model).contains (Text.lower name) := rfl
  rw [hcomp, hfind]
  cases hfirst : a.routes.find? fun r => isNamedFor model r && r.resource != some "" with
  | none => rfl
  | some first =>
      have hnamed := List.find?_some hfirst
      rw [Bool.and_eq_true, bne_iff_ne] at hnamed
      -- The first route has a resource with letters, so it is in the group of this name.
      cases hresource : first.resource with
      | none =>
          rw [isNamedFor, hresource] at hnamed
          exact absurd hnamed.1 (by simp)
      | some name =>
          have hletters : name ≠ "" := fun hname => hnamed.2 (by rw [hresource, hname])
          have hgroup : first.groupName? = some name :=
            (first.groupName?_eq_some_iff name).2 ⟨hresource, hletters⟩
          show ((first.groupName?.map fun name => (name, group a.routes name)).map
            Prod.snd).getD [] = _
          rw [hgroup]
          show group a.routes name = _
          unfold group
          refine List.filter_congr fun r _ => ?_
          rw [Bool.eq_iff_iff, beq_iff_eq, beq_iff_eq, r.groupName?_eq_some_iff, hresource]
          exact and_iff_left hletters

/-- Routes of one resource are named for the same models. -/
theorem isNamedFor_congr {r s : Route} (h : r.resource = s.resource) (model : String) :
    isNamedFor model r = isNamedFor model s := by
  rw [isNamedFor, isNamedFor, h]

namespace Analysis

variable {a : Analysis}

/-- A model is given no other routes than those that are named for it. -/
theorem mem_routesForModel (h : a.IsGrouped) {model : String} {r : Route}
    (hr : r ∈ a.routesForModel model) : r ∈ a.routes ∧ isNamedFor model r = true := by
  rw [routesForModel_of_isGrouped h] at hr
  cases hfirst : a.routes.find? fun r => isNamedFor model r && r.resource != some "" with
  | none =>
      rw [hfirst] at hr
      exact absurd hr List.not_mem_nil
  | some first =>
      rw [hfirst] at hr
      obtain ⟨hmem, hsame⟩ := List.mem_filter.1 hr
      have hnamed := List.find?_some hfirst
      rw [Bool.and_eq_true] at hnamed
      exact ⟨hmem, (isNamedFor_congr (beq_iff_eq.1 hsame) model).trans hnamed.1⟩

/-- **When no route is lost**: those that are named for the model have the same resource, letter by
letter, and it has letters. -/
theorem routesForModel_eq_filter_iff (h : a.IsGrouped) (model : String) :
    a.routesForModel model = a.routes.filter (isNamedFor model) ↔
      ∀ r ∈ a.routes, isNamedFor model r = true → r.resource ≠ some "" ∧
        ∀ s ∈ a.routes, isNamedFor model s = true → s.resource = r.resource := by
  rw [routesForModel_of_isGrouped h]
  constructor
  · intro heq r hr hnamed
    have hmem : r ∈ a.routes.filter (isNamedFor model) := List.mem_filter.2 ⟨hr, hnamed⟩
    cases hfirst : a.routes.find? fun r => isNamedFor model r && r.resource != some "" with
    | none =>
        rw [hfirst] at heq
        exact absurd (heq ▸ hmem) List.not_mem_nil
    | some first =>
        -- All routes that are named for the model are given, so they have its resource.
        have hall : ∀ s ∈ a.routes, isNamedFor model s = true → s.resource = first.resource := by
          intro s hs hs'
          have hmem : s ∈ a.routes.filter (isNamedFor model) := List.mem_filter.2 ⟨hs, hs'⟩
          rw [hfirst] at heq
          rw [← heq] at hmem
          exact beq_iff_eq.1 (List.mem_filter.1 hmem).2
        have hletters := List.find?_some hfirst
        rw [Bool.and_eq_true, bne_iff_ne] at hletters
        refine ⟨hall r hr hnamed ▸ hletters.2, fun s hs hs' => ?_⟩
        rw [hall s hs hs', hall r hr hnamed]
  · -- With one resource, what is given is told by it as well as by what is named.
    intro hone
    cases hfirst : a.routes.find? fun r => isNamedFor model r && r.resource != some "" with
    | none =>
        refine (List.filter_eq_nil_iff.2 fun r hr hnamed => ?_).symm
        have hnot := List.find?_eq_none.1 hfirst r hr
        simp [hnamed, (hone r hr hnamed).1] at hnot
    | some first =>
        have hmem := List.mem_of_find?_eq_some hfirst
        have hnamed := List.find?_some hfirst
        rw [Bool.and_eq_true] at hnamed
        refine List.filter_congr fun r hr => ?_
        rw [Bool.eq_iff_iff, beq_iff_eq]
        constructor
        · intro hsame
          exact (isNamedFor_congr hsame model).trans hnamed.1
        · intro hr'
          exact (hone first hmem hnamed.1).2 r hr hr'

end Analysis

/-- **Which routes a model is given.**  They are the routes of one resource, the first one with
letters that may be named for the model, so all of them are named for it.  None that is named for
it is lost exactly if all of those have the same resource, letter by letter, and it has letters. -/
theorem routesForModel_analyze {table : Option (List Entry)} {subject : Subject} {a : Analysis}
    (h : analyze table subject = .ok a) (model : String) :
    (a.routesForModel model =
      match a.routes.find? fun r => isNamedFor model r && r.resource != some "" with
      | none => []
      | some first => a.routes.filter fun r => r.resource == first.resource) ∧
    (∀ r ∈ a.routesForModel model, r ∈ a.routes ∧ isNamedFor model r = true) ∧
    (a.routesForModel model = a.routes.filter (isNamedFor model) ↔
      ∀ r ∈ a.routes, isNamedFor model r = true → r.resource ≠ some "" ∧
        ∀ s ∈ a.routes, isNamedFor model s = true → s.resource = r.resource) := by
  have hgrouped := isGrouped_analyze h
  exact ⟨Analysis.routesForModel_of_isGrouped hgrouped model,
    fun _ hr => Analysis.mem_routesForModel hgrouped hr,
    Analysis.routesForModel_eq_filter_iff hgrouped model⟩

/-- An entry of which no more is known than its path. -/
def bareEntry (uri : String) : Entry :=
  ⟨.ok (.text uri), .ok (.list [.text "GET"]), .ok .null, .ok .null, .ok .null, .ok .null⟩

/-- A model that answers to both of two resources loses the routes of the second one. -/
theorem routesForModel_analyze_user :
    ∃ a, analyze none (.entries [bareEntry "api/user/profile", bareEntry "api/users"]) = .ok a ∧
      (a.routes.map fun r => (r.uri, isNamedFor "User" r)) =
        [("api/user/profile", true), ("api/users", true)] ∧
      (a.routesForModel "User").map Route.uri = ["api/user/profile"] ∧
      a.routesForModel "User" ≠ a.routes.filter (isNamedFor "User") := by
  obtain ⟨a, ha⟩ : ∃ a, analyze none
      (.entries [bareEntry "api/user/profile", bareEntry "api/users"]) = .ok a := ⟨_, rfl⟩
  have hgiven := routesForModel_analyze ha "User"
  obtain rfl := Except.ok.inj ha
  refine ⟨_, rfl, by decide +kernel, ?_, ?_⟩
  · rw [hgiven.1]
    decide +kernel
  · intro heq
    -- Both routes are named for the model, so they would have the same resource.
    have hone := (hgiven.2.2.1 heq _ List.mem_cons_self (by decide +kernel)).2
    have hsame := hone _ (List.mem_cons_of_mem _ List.mem_cons_self) (by decide +kernel)
    revert hsame
    decide +kernel

end Routing

end DartScaffold
