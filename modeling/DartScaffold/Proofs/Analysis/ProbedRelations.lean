/-
**The relations that are found by trying.**

A class that declares no relations may have its accessors tried: each method that needs no argument,
is public and answers no question about the model is called, and what it returns is looked at.  A
relation object is a relation of the model; anything else is passed over, a failure with a warning
if the settings are strict.  So trying is reading the members of the class one by one: what a member
adds to the relations, and to the log, depends on this member alone.  Other members may come and go,
on the class or above it, and may fail in whatever way they like.

Main definitions:

* `Analysis.tried?` — what a member answers, if it is tried;
* `Analysis.relationAt?`, `Analysis.warningAt?` — what it adds to the relations, and to the log;
* `Analysis.AddsOther` — a class has a further member that leads to no related model.

Main results:

* `Analysis.run_probe`, `Analysis.run_foldlM_probe` — trying one member, and trying all;
* `Analysis.AddsOther.declared_eq`, `Analysis.AddsOther.foldl_own` — a further member changes
  neither what a class declares nor what is found;
* `Analysis.relationsOf_probing` — **the relations that are found are those of the members that lead
  to a related model**, and strict settings change nothing but the log.
-/

import Mathlib
import DartScaffold.Analysis.Model
import DartScaffold.Backend.ModelClass
import DartScaffold.Proofs.Steps

set_option relaxedAutoImplicit false
set_option autoImplicit false

namespace DartScaffold

namespace Analysis

open Backend

/-! ### What a member adds -/

/-- What a member answers if it is tried: it has to be a method of the class that needs no argument,
with a public name that is that of no question. -/
def tried? : String × Member → Option Answer
  | (name, .method .none answer) =>
    if Text.startsWith "_" name || questions.contains name then none else some answer
  | _ => none

/-- The relation that a member leads to: it has to be tried and to return a relation object. -/
def relationAt? (m : String × Member) : Option (String × Relationship) :=
  match tried? m with
  | some (.relation object) => some (m.1, foundRelation m.1 object)
  | _ => none

/-- The warning about a member that is tried and fails. -/
def warningAt? (className : String) (m : String × Member) : Option String :=
  match tried? m with
  | some (.fails reason) => some ("Skipping accessor " ++ className ++ "." ++ m.1 ++ ": " ++ reason)
  | _ => none

/-- The warnings about the members of a class, which strict settings ask for. -/
def warningsOf (options : AnalysisSettings) (className : String) (members : Entries String Member) :
    List String :=
  if options.strict.truthy then members.filterMap (warningAt? className) else []

/-- Writes what a member adds to the relations. -/
def addFound (relations : Entries String Relationship) (m : String × Member) :
    Entries String Relationship :=
  match relationAt? m with
  | some found => relations.put found.1 found.2
  | none => relations

theorem isProbed_eq_isSome (m : String × Member) : isProbed m.1 m.2 = (tried? m).isSome := by
  obtain ⟨name, m⟩ := m
  unfold isProbed
  cases m with
  | method arguments answer =>
      cases arguments with
      | none =>
          show _ = (if Text.startsWith "_" name || questions.contains name then _ else _ :
            Option Answer).isSome
          cases Text.startsWith "_" name <;> cases questions.contains name <;> rfl
      | required => exact Bool.and_false _
      | optional => exact Bool.and_false _
  | static answer => exact Bool.and_false _
  | property answer => exact Bool.and_false _
  | «attribute» answer => exact Bool.and_false _

/-- Only a method is tried. -/
theorem eq_method_of_tried? {m : String × Member} {answer : Answer} (h : tried? m = some answer) :
    m.2 = .method .none answer := by
  unfold tried? at h
  split at h
  · split_ifs at h
    rw [Option.some.inj h]
  · cases h

/-- The warnings about a single member. -/
theorem warningsOf_singleton (options : AnalysisSettings) (className : String)
    (m : String × Member) : warningsOf options className [m] =
      if options.strict.truthy then (warningAt? className m).toList else [] := by
  rw [warningsOf]
  cases hwarning : warningAt? className m <;> simp [hwarning]

theorem warningsOf_cons (options : AnalysisSettings) (className : String) (m : String × Member)
    (members : Entries String Member) : warningsOf options className (m :: members) =
      warningsOf options className [m] ++ warningsOf options className members := by
  rw [warningsOf_singleton, warningsOf, warningsOf]
  cases hstrict : options.strict.truthy with
  | false => rfl
  | true =>
      cases hwarning : warningAt? className m <;> simp [hwarning]

/-- A member about which there is no warning leaves the session as it is. -/
theorem warned_of_none {className : String} {m : String × Member}
    (h : warningAt? className m = none) (options : AnalysisSettings) (s : Session) :
    s.warned (warningsOf options className [m]) = s := by
  rw [warningsOf_singleton, h, Option.toList_none, ite_self, Session.warned_nil]

/-- **Trying one member** adds to the relations and to the log what the member alone tells. -/
theorem run_probe (options : AnalysisSettings) (v : ModelView)
    (relations : Entries String Relationship) (m : String × Member) (s : Session) :
    (probe options v relations m).run.run s =
      (.ok (addFound relations m), s.warned (warningsOf options v.className [m])) := by
  rw [probe, isProbed_eq_isSome, addFound, relationAt?]
  cases htried : tried? m with
  | none =>
      rw [warned_of_none (by rw [warningAt?, htried])]
      rfl
  | some answer =>
      rw [eq_method_of_tried? htried]
      cases answer with
      | relation object =>
          rw [warned_of_none (by rw [warningAt?, htried])]
          rfl
      | fails reason =>
          rw [warningsOf_singleton, warningAt?, htried]
          cases options.strict.truthy with
          | true => rfl
          | false => exact congrArg (Prod.mk _) (Session.warned_nil s).symm
      | value d =>
          rw [warned_of_none (by rw [warningAt?, htried])]
          rfl
      | registry entries =>
          rw [warned_of_none (by rw [warningAt?, htried])]
          rfl

/-- **Trying all members** one after another: no failure stops it, and none leaves a trace in the
relations.  The induction is on the members, with whatever was found before them. -/
theorem run_foldlM_probe (options : AnalysisSettings) (v : ModelView)
    (members : Entries String Member) (relations : Entries String Relationship) (s : Session) :
    (members.foldlM (probe options v) relations).run.run s =
      (.ok (members.foldl addFound relations),
        s.warned (warningsOf options v.className members)) := by
  induction members generalizing relations s with
  | nil =>
      rw [List.foldl_nil, warningsOf, List.filterMap_nil, ite_self, Session.warned_nil]
      rfl
  | cons m members ih =>
      rw [List.foldlM_cons, run_bind, run_probe]
      show (members.foldlM (probe options v) _).run.run _ = _
      rw [ih, List.foldl_cons, Session.warned_append, ← warningsOf_cons]

/-! ### The relations that are found -/

/-- A relation has the name of its member. -/
theorem fst_of_relationAt? {m : String × Member} {found : String × Relationship}
    (h : relationAt? m = some found) : found.1 = m.1 := by
  unfold relationAt? at h
  split at h
  · rw [← Option.some.inj h]
  · cases h

/-- What is written is what the members lead to, in their order, if no two of them have a name. -/
theorem foldl_addFound {members : Entries String Member} {relations : Entries String Relationship}
    (hnew : ∀ m ∈ members, m.1 ∉ relations.keys) (hnames : members.keys.Nodup) :
    members.foldl addFound relations = relations ++ members.filterMap relationAt? := by
  induction members generalizing relations with
  | nil => rw [List.foldl_nil, List.filterMap_nil, List.append_nil]
  | cons m members ih =>
      obtain ⟨hm, hmembers⟩ := List.forall_mem_cons.1 hnew
      obtain ⟨hother, hrest⟩ := List.nodup_cons.1 hnames
      rw [List.foldl_cons, addFound, List.filterMap_cons]
      cases hrelation : relationAt? m with
      | none => exact ih hmembers hrest
      | some found =>
          have hname := fst_of_relationAt? hrelation
          dsimp only
          rw [Entries.put_of_not_mem _ (hname ▸ hm), ih ?_ hrest, List.append_assoc,
            List.singleton_append]
          intro n hn hkey
          rw [Entries.keys, List.map_append, List.mem_append] at hkey
          rcases hkey with hkey | hkey
          · exact hmembers n hn hkey
          · -- The name that was written is that of another member.
            have hsame : n.1 = m.1 := (List.mem_singleton.1 hkey).trans hname
            exact hother (List.mem_map.2 ⟨n, hn, hsame⟩)

/-! ### Further members -/

section Others

variable {options : AnalysisSettings} {c c' : ModelClass} {name : String} {member : Member}

/-- A class has a further member of a new name that leads to no related model, or has above it a
further member of any kind; the member stands at any place among the others. -/
inductive AddsOther (name : String) (member : Member) : ModelClass → ModelClass → Prop
  | own (c : ModelClass) (before after : Entries String Member)
      (new : name ∉ (before ++ after).keys) (other : relationAt? (name, member) = none) :
      AddsOther name member { c with own := before ++ after }
        { c with own := before ++ (name, member) :: after }
  | inherited (c : ModelClass) (before after : Entries String Member) :
      AddsOther name member { c with inherited := before ++ after }
        { c with inherited := before ++ (name, member) :: after }

namespace AddsOther

/-- Members of other names are found as before. -/
theorem find?_eq (h : AddsOther name member c c') {key : String} (hkey : key ≠ name) :
    c'.find? key = c.find? key := by
  have hlookup : ∀ before after : Entries String Member,
      (before ++ (name, member) :: after).lookup key = (before ++ after).lookup key := by
    intro before after
    rw [List.lookup_append, List.lookup_append, List.lookup_cons, beq_false_of_ne hkey]
  cases h with
  | own c before after => rw [ModelClass.find?, ModelClass.find?, hlookup]
  | inherited c before after => rw [ModelClass.find?, ModelClass.find?, hlookup]

theorem name_eq (h : AddsOther name member c c') : c'.name = c.name := by
  cases h <;> rfl

/-- What is found by trying the members stays the same. -/
theorem foldl_own (h : AddsOther name member c c') :
    c'.own.foldl addFound [] = c.own.foldl addFound [] := by
  cases h with
  | own c before after new other =>
      have hnothing : ∀ relations, addFound relations (name, member) = relations := by
        intro relations
        rw [addFound, other]
      rw [List.foldl_append, List.foldl_append, List.foldl_cons, hnothing]
  | inherited c before after => rfl

/-- A question is answered as before. -/
theorem call_eq (h : AddsOther name member c c') {key : String} (hkey : key ≠ name) :
    c'.call key = c.call key ∧ c'.isCallable key = c.isCallable key := by
  rw [ModelClass.call, ModelClass.call, ModelClass.isCallable, ModelClass.isCallable,
    h.find?_eq hkey, h.name_eq]
  exact ⟨rfl, rfl⟩

/-- **A further member changes nothing about what a class declares**, unless it is the registry
itself. -/
theorem declared_eq (h : AddsOther name member c c') (hname : name ∉ questions)
    (hregistry : name ≠ "__relationships__") : c'.declared = c.declared := by
  have hquestion : "declared_relationships" ≠ name := by
    rintro rfl
    exact hname (by decide)
  obtain ⟨hcall, hcallable⟩ := h.call_eq hquestion
  rw [ModelClass.declared, ModelClass.declared, hcall, hcallable, h.find?_eq hregistry.symm]

end AddsOther

end Others

/-! ### The relations of a class -/

theorem relationsOf_nothing {options : AnalysisSettings} {v : ModelView}
    (hinclude : options.includeRelationships.truthy = true)
    (hprobe : options.probeAccessors.truthy = true) (hnone : v.declared = .ok .nothing) :
    relationsOf options v = v.members.foldlM (probe options v) [] := by
  simp only [relationsOf, hinclude, hnone, Bool.not_true, Bool.false_eq_true, if_false]
  show (if options.probeAccessors.truthy = true then _ else _ : Run _) = _
  rw [if_pos hprobe]

/-- **The relations that are found by trying.**  A class without a registry has the relations of the
members that lead to a related model, in their order, and only strict settings log something: a
warning for each member that is tried and fails.  If another member is added or removed, of a name
that is that of no question, the relations stay the same; the name of the registry is no exception,
unless it makes the class have one. -/
theorem relationsOf_probing {options : AnalysisSettings}
    (hinclude : options.includeRelationships.truthy = true)
    (hprobe : options.probeAccessors.truthy = true) {c : ModelClass} (hnames : c.own.keys.Nodup)
    (hnone : c.declared = .ok .nothing) (s : Session) :
    (relationsOf options c.view).run.run s =
        (.ok (c.own.filterMap relationAt?), s.warned (warningsOf options c.name c.own)) ∧
      ∀ (name : String) (member : Member) (c' : ModelClass),
        AddsOther name member c c' ∨ AddsOther name member c' c → name ∉ questions →
          (name = "__relationships__" → c'.declared = .ok .nothing) →
            c'.declared = .ok .nothing ∧
              (relationsOf options c'.view).run.run s =
                (.ok (c.own.filterMap relationAt?),
                  s.warned (warningsOf options c'.name c'.own)) := by
  have hfound : c.own.foldl addFound [] = c.own.filterMap relationAt? :=
    foldl_addFound (fun _ _ hkey => absurd hkey List.not_mem_nil) hnames
  have hrun : ∀ c : ModelClass, c.declared = .ok .nothing →
      (relationsOf options c.view).run.run s =
        (.ok (c.own.foldl addFound []), s.warned (warningsOf options c.name c.own)) := by
    intro c hnone
    rw [relationsOf_nothing hinclude hprobe hnone]
    exact run_foldlM_probe options c.view c.own [] s
  refine ⟨hfound ▸ hrun c hnone, fun name member c' h hname hregistry => ?_⟩
  have hnone' : c'.declared = .ok .nothing := by
    by_cases hsame : name = "__relationships__"
    · exact hregistry hsame
    · rcases h with h | h
      · exact (h.declared_eq hname hsame).trans hnone
      · exact (h.declared_eq hname hsame).symm.trans hnone
  have hsame : c'.own.foldl addFound [] = c.own.foldl addFound [] :=
    h.elim AddsOther.foldl_own fun h => h.foldl_own.symm
  refine ⟨hnone', ?_⟩
  rw [hrun c' hnone', hsame, hfound]

/-- Settings under which accessors are tried, and failures are logged. -/
def tryingSettings : AnalysisSettings where
  includeRelationships := .bool true
  probeAccessors := .bool true
  strict := .bool true
  excludedAttributes := []

/-- A relation object that leads to a model. -/
def postsRelation : RelationObject :=
  { (default : RelationObject) with
    className := "HasMany", related := .text "Post", foreignKey := some (.text "author_id") }

/-- A class with accessors of all kinds, two of which fail and one of which leads to a model. -/
def authorClass : ModelClass where
  module := "blog"
  name := "Author"
  isAbstract := false
  argument := none
  own := [
    ("get_table", .method .none (.value (.text "authors"))),
    ("drafts", .method .none (.fails "no connection")),
    ("_cached", .method .none (.relation postsRelation)),
    ("posts", .method .none (.relation postsRelation)),
    ("latest", .method .optional (.relation postsRelation)),
    ("title", .method .none (.value (.text "Dr."))),
    ("reviews", .method .none (.fails "no table"))]
  inherited := [("comments", .method .none (.relation postsRelation))]

/-- One relation is found, and two failures are logged; without the first of them the same relation
is found. -/
theorem relationsOf_probing_author :
    let s := Session.start .empty [] Web.unreachable
    let quieter := { authorClass with own := authorClass.own.eraseIdx 1 }
    authorClass.own.keys.Nodup ∧ authorClass.declared = .ok .nothing ∧
      AddsOther "drafts" (.method .none (.fails "no connection")) quieter authorClass ∧
      (relationsOf tryingSettings authorClass.view).run.run s =
        (.ok [("posts", foundRelation "posts" postsRelation)],
          s.warned ["Skipping accessor Author.drafts: no connection",
            "Skipping accessor Author.reviews: no table"]) ∧
      (relationsOf tryingSettings quieter.view).run.run s =
        (.ok [("posts", foundRelation "posts" postsRelation)],
          s.warned ["Skipping accessor Author.reviews: no table"]) := by
  intro s quieter
  have hnames : authorClass.own.keys.Nodup := by decide
  have hnone : authorClass.declared = .ok .nothing := rfl
  have hadds : AddsOther "drafts" (.method .none (.fails "no connection")) quieter authorClass :=
    .own quieter (authorClass.own.take 1) (authorClass.own.drop 2) (by decide) rfl
  have hinclude : tryingSettings.includeRelationships.truthy = true := rfl
  obtain ⟨hrun, hother⟩ := relationsOf_probing hinclude rfl hnames hnone s
  have hsame := hother _ _ _ (.inr hadds) (by decide) fun h => absurd h (by decide)
  exact ⟨hnames, hnone, hadds, hrun, hsame.2⟩

end Analysis

end DartScaffold
