/-
**What an analysis makes of a route table.**

An analysis shows its routes in three ways: in a list, in groups by resource, and by the names of
the resources.  All three are told by the descriptions of the entries, one after another, so nothing
is lost and nothing comes twice.  When no routes are given, those of the table that is set are
chosen by their paths before they are described; a description says for itself whether the route
belongs to the interface.  Both agree, so the analysis of the interface is the part of the whole one
that the descriptions mark.

Main definitions:

* `Routing.Analysis.Shows` — an analysis shows some routes, in its list, its groups and its names.

Main results:

* `Routing.Analysis.exists_ofEntries` — routes that can be described one by one can be analyzed;
* `Routing.analyzeApi_eq` — choosing by paths is choosing by descriptions;
* `Routing.Analysis.Shows.lookup_filter` — the groups of some of the routes are parts of groups;
* `Routing.analyze_router` — **nothing is lost and nothing comes twice**, in the analysis of a whole
  table and in that of its interface.
-/

import Mathlib
import DartScaffold.Proofs.Routing.ResourceGroups
import DartScaffold.Proofs.Steps

set_option relaxedAutoImplicit false
set_option autoImplicit false

namespace DartScaffold.Routing

/-! ### Groups -/

/-- The names of the groups are those of the resources that have letters. -/
theorem groupNames_eq (routes : List Route) :
    groupNames routes = ((routes.filterMap Route.resource).filter (· != "")).eraseDups := by
  unfold groupNames
  rw [List.filter_filterMap]
  rfl

theorem mem_groupNames {routes : List Route} {name : String} :
    name ∈ groupNames routes ↔ name ≠ "" ∧ ∃ r ∈ routes, r.resource = some name := by
  rw [groupNames, List.mem_eraseDups, List.mem_filterMap]
  constructor
  · rintro ⟨r, hr, hname⟩
    obtain ⟨hresource, hletters⟩ := (r.groupName?_eq_some_iff name).1 hname
    exact ⟨hletters, r, hr, hresource⟩
  · rintro ⟨hletters, r, hr, hresource⟩
    exact ⟨r, hr, (r.groupName?_eq_some_iff name).2 ⟨hresource, hletters⟩⟩

/-- A group with letters holds the routes of its resource. -/
theorem group_eq_filter (routes : List Route) {name : String} (h : name ≠ "") :
    group routes name = routes.filter fun r => r.resource == some name := by
  refine List.filter_congr fun r _ => ?_
  rw [Bool.eq_iff_iff, beq_iff_eq, beq_iff_eq, r.groupName?_eq_some_iff]
  exact and_iff_left h

namespace Analysis

/-- An analysis shows some routes: its list holds them in order, it has a group for each resource
with letters that one of them belongs to, with all routes of that resource in order, and the
resources are named once each, in the order in which they come first. -/
structure Shows (a : Analysis) (routes : List Route) : Prop where
  list : a.routes = routes
  groups : ∀ name, a.groups.lookup name =
    if name ≠ "" ∧ ∃ r ∈ routes, r.resource = some name
    then some (routes.filter fun r => r.resource == some name) else none
  resources : a.resources = ((routes.filterMap Route.resource).filter (· != "")).eraseDups
  nodup : a.resources.Nodup

variable {a whole : Analysis} {routes : List Route}

/-- An analysis with its routes in groups shows them. -/
theorem IsGrouped.shows (h : a.IsGrouped) : a.Shows a.routes := by
  have hresources : a.resources = groupNames a.routes := by
    unfold resources Entries.keys
    rw [show a.groups = _ from h, List.map_map]
    exact List.map_id _
  refine ⟨rfl, fun name => ?_, hresources.trans (groupNames_eq _), ?_⟩
  · rw [h.lookup_eq]
    by_cases hname : name ∈ groupNames a.routes
    · rw [if_pos hname, if_pos (mem_groupNames.1 hname),
        group_eq_filter _ (mem_groupNames.1 hname).1]
    · rw [if_neg hname, if_neg fun hin => hname (mem_groupNames.2 hin)]
  · rw [hresources]
    exact nodup_eraseDups _

/-- **The groups of some of the routes are parts of the groups of all**: under each name those of
the group that are among the some, and no group where there are none. -/
theorem Shows.lookup_filter {p : Route → Bool} (h : whole.Shows routes)
    (hpart : a.Shows (routes.filter p)) (name : String) :
    a.groups.lookup name =
      ((whole.groups.lookup name).map (List.filter p)).filter fun part => !part.isEmpty := by
  have hcomm : (routes.filter p).filter (fun r => r.resource == some name) =
      (routes.filter fun r => r.resource == some name).filter p := by
    rw [List.filter_filter, List.filter_filter]
    simp only [Bool.and_comm]
  rw [h.groups, hpart.groups, hcomm]
  by_cases hletters : name = ""
  · rw [if_neg fun hin => hin.1 hletters, if_neg fun hin => hin.1 hletters]
    rfl
  by_cases hall : ∃ r ∈ routes, r.resource = some name
  · rw [if_pos (⟨hletters, hall⟩ : name ≠ "" ∧ _)]
    -- There is a group of the part exactly if the part of the group is not empty.
    have hsome : (∃ r ∈ routes.filter p, r.resource = some name) ↔
        (routes.filter fun r => r.resource == some name).filter p ≠ [] := by
      rw [← hcomm, ne_eq, List.filter_eq_nil_iff]
      simp [and_assoc]
    rw [Option.map_some, Option.filter_some]
    by_cases hempty : (routes.filter fun r => r.resource == some name).filter p = []
    · rw [if_neg fun hin => hsome.1 hin.2 hempty, hempty]
      rfl
    · rw [if_pos ⟨hletters, hsome.2 hempty⟩, if_pos]
      rw [Bool.not_eq_true', List.isEmpty_eq_false_iff]
      exact hempty
  · have hnone : ¬∃ r ∈ routes.filter p, r.resource = some name := by
      rintro ⟨r, hr, hresource⟩
      exact hall ⟨r, (List.mem_filter.1 hr).1, hresource⟩
    rw [if_neg fun hin => hnone hin.2, if_neg fun hin => hall hin.2]
    rfl

/-! ### Entries one after another -/

/-- Routes that can be described one by one are added one by one. -/
theorem foldlM_eq_ok {entries : List Entry}
    (h : List.Forall₂ (fun e r => analyzeEntry e = .ok r) entries routes) (start : Analysis) :
    ∃ a, entries.foldlM (fun a e => return a.add (← analyzeEntry e)) start = .ok a ∧
      a.routes = start.routes ++ routes := by
  induction h generalizing start with
  | nil => exact ⟨start, rfl, (List.append_nil _).symm⟩
  | @cons e r entries routes he _ ih =>
      obtain ⟨a, ha, hroutes⟩ := ih (start.add r)
      refine ⟨a, ?_, ?_⟩
      · rw [List.foldlM_cons, he]
        exact ha
      · rw [hroutes, routes_add, List.append_assoc]
        rfl

/-- Routes that can be described one by one can be analyzed, and are shown. -/
theorem exists_ofEntries {entries : List Entry}
    (h : List.Forall₂ (fun e r => analyzeEntry e = .ok r) entries routes) :
    ∃ a, ofEntries entries = .ok a ∧ a.Shows routes := by
  obtain ⟨a, ha, hroutes⟩ := foldlM_eq_ok h empty
  refine ⟨a, ha, ?_⟩
  have hshows := (isGrouped_ofEntries ha).shows
  rwa [show a.routes = routes from hroutes] at hshows

end Analysis

/-! ### The interface -/

/-- What a description consists of: the path of the entry without the slashes at its beginning,
whether it begins like those of the interface, and the resource and the parameters that are found
for the name of the entry. -/
theorem parts_of_analyzeEntry {e : Entry} {r : Route} (h : analyzeEntry e = .ok r) :
    pathOf e = .ok r.uri ∧ r.isApi = Text.startsWith apiRoot r.uri ∧
      ∃ name, e.name = .ok name ∧ resourceOf r.uri name = .ok r.resource ∧
        parametersOf e r.uri r.resource = .ok r.parameters := by
  unfold analyzeEntry at h
  obtain ⟨path, hpath, h⟩ := exists_of_bind_eq_ok h
  obtain ⟨_, -, h⟩ := exists_of_bind_eq_ok h
  obtain ⟨_, -, h⟩ := exists_of_bind_eq_ok h
  obtain ⟨_, -, h⟩ := exists_of_bind_eq_ok h
  obtain ⟨_, -, h⟩ := exists_of_bind_eq_ok h
  dsimp only at h
  split_ifs at h
  all_goals
    iterate 4 obtain ⟨_, -, h⟩ := exists_of_bind_eq_ok h
    obtain ⟨name, hname, h⟩ := exists_of_bind_eq_ok h
    obtain ⟨resource, hresource, h⟩ := exists_of_bind_eq_ok h
    obtain ⟨parameters, hparameters, h⟩ := exists_of_bind_eq_ok h
    obtain rfl := Except.ok.inj h
    exact ⟨hpath, rfl, name, hname, eq_ok_of_liftM hresource, hparameters⟩

/-- A description tells whether the path of the entry, without the slashes at its beginning, begins
like those of the interface. -/
theorem pathOf_of_analyzeEntry {e : Entry} {r : Route} (h : analyzeEntry e = .ok r) :
    pathOf e = .ok r.uri ∧ r.isApi = Text.startsWith apiRoot r.uri := by
  obtain ⟨hpath, hflag, -⟩ := parts_of_analyzeEntry h
  exact ⟨hpath, hflag⟩

/-- A filter whose checks succeed gives what they choose. -/
theorem filterM_eq_ok {ε α : Type} {f : α → Except ε Bool} {p : α → Bool} {as : List α}
    (h : ∀ a ∈ as, f a = .ok (p a)) : as.filterM f = .ok (as.filter p) := by
  have hloop : ∀ found, List.filterAuxM f as found = .ok ((as.filter p).reverse ++ found) := by
    induction as with
    | nil => exact fun found => rfl
    | cons a as ih =>
        intro found
        show (f a >>= fun b => List.filterAuxM f as (cond b (a :: found) found)) = _
        rw [h a (List.mem_cons_self ..)]
        show List.filterAuxM f as (cond (p a) (a :: found) found) = _
        rw [ih fun b hb => h b (List.mem_cons_of_mem _ hb), List.filter_cons]
        cases p a <;> simp
  show (List.filterAuxM f as [] >>= fun bs => Pure.pure bs.reverse) = _
  rw [hloop]
  show Except.ok ((as.filter p).reverse ++ []).reverse = _
  rw [List.append_nil, List.reverse_reverse]

/-- **Choosing by paths is choosing by descriptions.**  The routes of the interface in a table are
analyzed as those whose descriptions say that they are. -/
theorem analyzeApi_eq {entries : List Entry} {routes : List Route}
    (h : List.Forall₂ (fun e r => analyzeEntry e = .ok r) entries routes) :
    ∃ chosen, analyzeApi (some entries) = Analysis.ofEntries chosen ∧
      List.Forall₂ (fun e r => analyzeEntry e = .ok r) chosen (routes.filter Route.isApi) := by
  -- Whether an entry belongs to the interface, by its path.
  let inApi (e : Entry) : Bool := (pathOf e).toOption.any (Text.startsWith apiRoot)
  have hpath : ∀ {e : Entry} {r : Route}, analyzeEntry e = .ok r → inApi e = r.isApi := by
    intro e r he
    obtain ⟨hpath, hflag⟩ := pathOf_of_analyzeEntry he
    show (pathOf e).toOption.any _ = _
    rw [hpath, hflag]
    rfl
  refine ⟨entries.filter inApi, ?_, ?_⟩
  · have hchosen : entries.filterM
        (fun e => (return Text.startsWith apiRoot (← pathOf e) : Except Fault Bool)) =
          .ok (entries.filter inApi) := by
      refine filterM_eq_ok fun e he => ?_
      obtain ⟨r, -, hr⟩ := exists_of_forall₂ h he
      show _ = Except.ok ((pathOf e).toOption.any _)
      rw [(pathOf_of_analyzeEntry hr).1]
      rfl
    unfold analyzeApi
    dsimp only
    rw [hchosen]
    rfl
  · induction h with
    | nil => exact .nil
    | @cons e r entries routes he _ ih =>
        rw [List.filter_cons, List.filter_cons, hpath he]
        cases r.isApi with
        | true => exact .cons he ih
        | false => exact ih

/-- **Nothing is lost and nothing comes twice.**  If each entry of a table can be described, then
the analysis of the table, as a table or as several routes, shows the descriptions in order.  The
analysis of its interface, by itself, shows those of them that say that they belong to it, and its
groups are the parts of the groups of all. -/
theorem analyze_router {entries : List Entry} (h : ∀ e ∈ entries, ∃ r, analyzeEntry e = .ok r)
    (table : Option (List Entry)) :
    ∃ routes, List.Forall₂ (fun e r => analyzeEntry e = .ok r) entries routes ∧
      ∃ whole, analyze table (.router entries) = .ok whole ∧
        analyze table (.entries entries) = .ok whole ∧ whole.Shows routes ∧
        ∃ api, analyze (some entries) .unspecified = .ok api ∧
          api.Shows (whole.routes.filter Route.isApi) ∧
          ∀ name, api.groups.lookup name =
            ((whole.groups.lookup name).map (List.filter Route.isApi)).filter
              fun part => !part.isEmpty := by
  obtain ⟨routes, hroutes, -⟩ := exists_mapM_ok (P := fun _ => True)
    fun e he => (h e he).imp fun r hr => ⟨hr, trivial⟩
  have hdescribed := forall₂_of_mapM hroutes
  obtain ⟨whole, hwhole, hshows⟩ := Analysis.exists_ofEntries hdescribed
  obtain ⟨chosen, hchosen, hpart⟩ := analyzeApi_eq hdescribed
  obtain ⟨api, hapi, hshown⟩ := Analysis.exists_ofEntries hpart
  refine ⟨routes, hdescribed, whole, hwhole, hwhole, hshows, api, hchosen.trans hapi, ?_,
    hshows.lookup_filter hshown⟩
  rwa [hshows.list]

/-- A table with slashes in front of a path, a path that is the beginning of the interface alone,
and a resource both inside and outside the interface. -/
theorem analyze_router_mixed :
    let entries := ["//api/users", "pages/home", "api/", "users"].map bareEntry
    (∀ e ∈ entries, ∃ r, analyzeEntry e = .ok r) ∧
      ∃ whole, analyze none (.router entries) = .ok whole ∧
        whole.routes.map Route.uri = ["api/users", "pages/home", "api/", "users"] ∧
        whole.resources = ["users", "pages"] ∧
        ∃ api, analyze (some entries) .unspecified = .ok api ∧
          api.routes.map Route.uri = ["api/users", "api/"] ∧
          (api.groups.lookup "users").map (List.map Route.uri) = some ["api/users"] ∧
          api.groups.lookup "pages" = none := by
  intro entries
  have hdescribed : ∀ e ∈ entries, ∃ r, analyzeEntry e = .ok r := by
    simp only [entries, List.map_cons, List.map_nil, List.forall_mem_cons]
    exact ⟨⟨_, rfl⟩, ⟨_, rfl⟩, ⟨_, rfl⟩, ⟨_, rfl⟩, by simp⟩
  obtain ⟨routes, -, whole, hwhole, -, hshows, api, hapi, hshown, hgroups⟩ :=
    analyze_router hdescribed none
  obtain rfl := Except.ok.inj hwhole
  refine ⟨hdescribed, _, hwhole, ?_, ?_, api, hapi, ?_, ?_, ?_⟩
  · decide +kernel
  · decide +kernel
  · rw [hshown.list]
    decide +kernel
  · rw [hgroups]
    decide +kernel
  · rw [hgroups]
    decide +kernel

end DartScaffold.Routing
