/-
**How the analysis of an entry ends.**

The members of a model's entry may be any values.  The analysis looks at them one after another,
and each has to fit the use that is made of it.  A section that is no object is a fault of the
analysis, which a run records; but the class, the table, and the lists of columns are used as they
are, and a value of the wrong kind there breaks the run off.  Which it is, is told by the first
member that does not fit, in the order in which the analysis looks at them.

Main definitions:

* `Backend.memberOr`, `Backend.classOf`, `Backend.tableOf` — what an entry says;
* `Backend.isSection`, `Backend.hasRelations`, `Backend.isSet` — what fits;
* `Backend.checks`, `Backend.entryEnding` — the checks in order, and how they end.

Main results:

* `Backend.endsIn_attributesOf`, `Backend.endsIn_relationsOf`, `Backend.endsIn_rulesOf` — how the
  parts of the analysis end;
* `Backend.endsIn_analyze` — **the analysis of an entry ends as the checks tell**.
-/

import Mathlib
import DartScaffold.Proofs.Pipeline.Ending
import DartScaffold.Proofs.Routing.ManifestEntry

set_option relaxedAutoImplicit false
set_option autoImplicit false

namespace DartScaffold.Backend

open Pipeline (Ending EndsIn)

/-! ### What an entry says -/

/-- The member of a name, or what stands for a missing one. -/
def memberOr (key : String) (missing : Datum) (members : List (String × Datum)) : Datum :=
  (members.lookup key).getD missing

/-- The qualified name of the model under a key. -/
def classOf (key : String) (members : List (String × Datum)) : Datum :=
  (memberOr "class" .null members).orElse (.text key)

/-- The table of the model under a key. -/
def tableOf (key : String) (members : List (String × Datum)) : Datum :=
  (memberOr "table" .null members).orElse (.text (Text.lower key ++ "s"))

/-! ### What fits -/

/-- An object. -/
def isObject : Datum → Bool
  | .object _ => true
  | _ => false

/-- An object, or a value that counts as nothing. -/
def isSection (d : Datum) : Bool := isObject (d.orElse (.object []))

/-- A section of objects. -/
def hasRelations (d : Datum) : Bool :=
  match d.orElse (.object []) with
  | .object relations => relations.all fun r => isObject r.2
  | _ => false

/-- A value whose items can be the members of a set. -/
def isSet (d : Datum) : Bool :=
  match d.items with
  | .ok ds => ds.all Datum.hashable
  | .error _ => false

/-- Whether there is a table of a name; a value that cannot be one names none. -/
def isTable (schema : Schema) (table : Datum) : Bool :=
  match schema.hasTable table with
  | .ok there => there
  | .error _ => false

/-- What the analysis asks for, in order, each with how it ends if that does not fit. -/
def checks (options : AnalysisSettings) (schema : Schema) (key : String)
    (members : List (String × Datum)) : List (Bool × Ending) := [
  (isText (classOf key members), .escapes),
  ((tableOf key members).hashable, .escapes),
  (!options.strict.truthy || isTable schema (tableOf key members), .recorded),
  (!options.includeRelationships.truthy || hasRelations (memberOr "relationships" .null members),
    .recorded),
  (isSection (memberOr "rules" .null members), .recorded),
  (isSet (memberOr "fillable" (.list []) members), .escapes),
  (isSet (memberOr "guarded" (.list []) members), .escapes),
  (isSet (memberOr "hidden" (.list []) members), .escapes),
  (isSection (memberOr "casts" .null members), .recorded),
  (isSet (memberOr "dates" (.list []) members), .escapes)]

/-- How the analysis of the entry under a key ends. -/
def entryEnding (options : AnalysisSettings) (schema : Schema) (key : String)
    (members : List (String × Datum)) : Ending :=
  .ofChecks (checks options schema key members)

variable {options : AnalysisSettings} {schema : Schema} {key : String}
  {members : List (String × Datum)}

/-! ### The answers of a model -/

theorem name_viewOf : (Manifest.viewOf (.text key) (.object members)).name =
    .ok (classOf key members) := rfl

theorem table_viewOf : (Manifest.viewOf (.text key) (.object members)).table =
    .ok (tableOf key members) := by
  show (if (memberOr "table" .null members).truthy then _ else _) = _
  unfold tableOf Datum.orElse
  by_cases h : (memberOr "table" .null members).truthy = true
  · rw [if_pos h, if_pos h]
    rfl
  · rw [if_neg h, if_neg h]
    rfl

/-- A section is an object, or asking for it is a fault of the description. -/
theorem sectionOf_cases (name : Datum) (part : String) (members : List (String × Datum)) :
    (∃ ms, (memberOr part .null members).orElse (.object []) = .object ms ∧
      Manifest.sectionOf name part (.object members) = .ok ms) ∨
    ((∀ ms, (memberOr part .null members).orElse (.object []) ≠ .object ms) ∧
      ∃ f, Manifest.sectionOf name part (.object members) = .error (.description f)) := by
  have heq : Manifest.sectionOf name part (.object members) =
      match (memberOr part .null members).orElse (.object []) with
      | .object ms => .ok ms
      | v => .error (.description (.sectionNotObject part name.display v.kindName)) := by
    unfold Manifest.sectionOf
    simp only [Datum.memberFor_object]
    rfl
  rw [heq]
  cases (memberOr part .null members).orElse (.object []) with
  | object ms => exact .inl ⟨ms, rfl, rfl⟩
  | _ => exact .inr ⟨by simp, _, rfl⟩

/-- The items of a member, or a misuse. -/
theorem listOf_eq (part : String) (members : List (String × Datum)) :
    Manifest.listOf part (.object members) =
      (memberOr part (.list []) members).items.map .list := by
  unfold Manifest.listOf
  simp only [Datum.memberFor_object]
  rfl

/-! ### The parts of the analysis -/

/-- What can be a table is one or not; anything else cannot be asked for. -/
theorem hasTable_cases (schema : Schema) (table : Datum) :
    (table.hashable = true ∧ schema.hasTable table = .ok (isTable schema table)) ∨
      (table.hashable = false ∧ ∃ m, schema.hasTable table = .error m) := by
  unfold isTable
  cases table with
  | list ds => exact .inr ⟨rfl, _, rfl⟩
  | object ms => exact .inr ⟨rfl, _, rfl⟩
  | _ => exact .inl ⟨rfl, rfl⟩

/-- The columns ask for a table that can be one and, if the settings are strict, is there. -/
theorem endsIn_attributesOf :
    EndsIn (Analysis.attributesOf (.ok schema) options
      (Manifest.viewOf (.text key) (.object members)))
      (.ofChecks [((tableOf key members).hashable, .escapes),
        (!options.strict.truthy || isTable schema (tableOf key members), .recorded)]) := by
  unfold Analysis.attributesOf
  refine EndsIn.bind_fault table_viewOf ?_
  generalize tableOf key members = table
  rcases hasTable_cases schema table with ⟨hhash, hthere⟩ | ⟨hhash, m, hm⟩
  · refine EndsIn.bind_misuse hthere ?_
    rw [hhash]
    cases hin : isTable schema table with
    | true =>
        rw [Bool.or_true]
        exact EndsIn.pure _
    | false =>
        cases hstrict : options.strict.truthy with
        | true => exact EndsIn.throw _
        | false =>
            exact EndsIn.bind_fault name_viewOf
              ((EndsIn.record _ _).bind fun _ => EndsIn.pure _)
  · -- What cannot be a table cannot be asked for, whether the settings are strict or not.
    rw [hhash, hm]
    show EndsIn _ .escapes
    exact EndsIn.bind_of_ne (by decide) (fun _ => rfl) _

/-- What is no object is no section, and holds no relations. -/
theorem not_isSection {d : Datum} (h : ∀ ms, d.orElse (.object []) ≠ .object ms) :
    isSection d = false ∧ hasRelations d = false := by
  unfold isSection hasRelations
  cases hd : d.orElse (.object []) with
  | object ms => exact absurd hd (h ms)
  | _ => exact ⟨rfl, rfl⟩

/-- The rules ask for a section. -/
theorem endsIn_rulesOf :
    EndsIn (liftM (Analysis.rulesOf (Manifest.viewOf (.text key) (.object members))) : Run _)
      (.ofChecks [(isSection (memberOr "rules" .null members), .recorded)]) := by
  have hrules : (Manifest.viewOf (.text key) (.object members)).rules = (do
    return .object (← Manifest.sectionOf (.text key) "rules" (.object members))) := rfl
  intro s
  show Ending.of (Analysis.rulesOf _) = _
  unfold Analysis.rulesOf
  rw [hrules]
  rcases sectionOf_cases (.text key) "rules" members with ⟨ms, hd, hms⟩ | ⟨hd, f, hf⟩
  · rw [hms, isSection, hd]
    cases ms <;> rfl
  · rw [hf, (not_isSection hd).1]
    rfl

/-- The casts ask for a section, which gives a mapping. -/
theorem endsIn_casts {α : Type} {f : Entries Datum Datum → Run α} {rest : List (Bool × Ending)}
    (hf : ∀ ds, EndsIn (f ds) (.ofChecks rest)) :
    EndsIn (do
      let d ← ((Manifest.viewOf (.text key) (.object members)).casts : Except Fault Datum)
      let casts ← (d.mappingOrNone : Except Misuse _)
      f casts) (.ofChecks ((isSection (memberOr "casts" .null members), .recorded) :: rest)) := by
  have hcasts : (Manifest.viewOf (.text key) (.object members)).casts = (do
    return .object (← Manifest.sectionOf (.text key) "casts" (.object members))) := rfl
  rw [hcasts]
  rcases sectionOf_cases (.text key) "casts" members with ⟨ms, hd, hms⟩ | ⟨hd, g, hg⟩
  · obtain ⟨casts, hmapping⟩ : ∃ casts, (Datum.object ms).mappingOrNone = .ok casts := by
      cases ms with
      | nil => exact ⟨[], rfl⟩
      | cons m ms => exact ⟨_, rfl⟩
    rw [hms, isSection, hd]
    exact EndsIn.bind_fault (a := Datum.object ms) rfl (EndsIn.bind_misuse hmapping (hf casts))
  · rw [hg, (not_isSection hd).1]
    show EndsIn _ .recorded
    exact EndsIn.bind_of_ne (by decide) (fun _ => rfl) _

/-- A list of columns asks for the items of a set. -/
theorem endsIn_elements {α : Type} {part : String} {f : List Datum → Run α}
    {rest : List (Bool × Ending)} (hf : ∀ ds, EndsIn (f ds) (.ofChecks rest)) :
    EndsIn (do
      let d ← (liftM (Manifest.listOf part (.object members)) : Except Fault Datum)
      let ds ← (d.elementsOrNone : Except Misuse _)
      f ds) (.ofChecks ((isSet (memberOr part (.list []) members), .escapes) :: rest)) := by
  rw [listOf_eq]
  unfold isSet
  cases hitems : (memberOr part (.list []) members).items with
  | error m =>
      show EndsIn _ .escapes
      exact EndsIn.bind_of_ne (by decide) (fun _ => rfl) _
  | ok ds =>
      refine EndsIn.bind_fault (a := Datum.list ds) rfl ?_
      rw [Datum.elementsOrNone_list]
      rcases Datum.asSet_cases ds with ⟨hall, found, hfound⟩ | ⟨hall, m, hm⟩
      · show EndsIn _ (.ofChecks ((ds.all Datum.hashable, .escapes) :: rest))
        rw [hall]
        exact EndsIn.bind_misuse hfound (hf found)
      · show EndsIn _ (.ofChecks ((ds.all Datum.hashable, .escapes) :: rest))
        rw [hall, hm]
        show EndsIn _ .escapes
        exact EndsIn.bind_of_ne (by decide) (fun _ => rfl) _

/-- An entry of the relations asks for an object. -/
theorem endsIn_addDeclared (relations : Entries String Relationship) (r : String × Datum) :
    EndsIn (Analysis.addDeclared (Manifest.viewOf (.text key) (.object members)) relations
      (r.1, .value r.2)) (.ofChecks [(isObject r.2, .recorded)]) := by
  obtain ⟨accessor, d⟩ := r
  cases d with
  | object ms =>
      simp only [Analysis.addDeclared]
      cases Analysis.relationOf? accessor ms with
      | some relation => exact EndsIn.pure _
      | none => exact (EndsIn.record _ _).bind fun _ => EndsIn.pure _
  | _ => exact EndsIn.bind_fault name_viewOf (EndsIn.throw _)

/-- The entries of the relations ask for objects, one after another. -/
theorem endsIn_foldlM_addDeclared (relations : Entries String Relationship)
    (rs : List (String × Datum)) :
    EndsIn ((rs.map fun r => (r.1, RelationEntry.value r.2)).foldlM
      (Analysis.addDeclared (Manifest.viewOf (.text key) (.object members))) relations)
      (.ofChecks [(rs.all fun r => isObject r.2, .recorded)]) := by
  induction rs generalizing relations with
  | nil => exact EndsIn.pure relations
  | cons r rs ih =>
      have hfirst := @endsIn_addDeclared key members relations r
      rw [List.map_cons, List.foldlM_cons, List.all_cons]
      cases hobject : isObject r.2 with
      | true =>
          rw [hobject] at hfirst
          exact EndsIn.bind hfirst fun relations => ih relations
      | false =>
          rw [hobject] at hfirst
          exact EndsIn.bind_of_ne (by decide) hfirst _

/-- The relations, if they are wanted, ask for a section of objects. -/
theorem endsIn_relationsOf :
    EndsIn (Analysis.relationsOf options (Manifest.viewOf (.text key) (.object members)))
      (.ofChecks [(!options.includeRelationships.truthy ||
        hasRelations (memberOr "relationships" .null members), .recorded)]) := by
  have hdeclared : (Manifest.viewOf (.text key) (.object members)).declared = (do
    return .entries ((← Manifest.sectionOf (.text key) "relationships" (.object members)).map
      fun e => (e.1, .value e.2))) := rfl
  unfold Analysis.relationsOf
  cases options.includeRelationships.truthy with
  | false => exact EndsIn.pure _
  | true =>
      rw [hdeclared]
      rcases sectionOf_cases (.text key) "relationships" members with ⟨ms, hd, hms⟩ | ⟨hd, g, hg⟩
      · rw [hms, hasRelations, hd]
        exact EndsIn.bind_fault rfl (endsIn_foldlM_addDeclared [] ms)
      · rw [hg, (not_isSection hd).2]
        show EndsIn _ .recorded
        exact EndsIn.bind_of_ne (by decide) (fun _ => rfl) _

/-! ### The analysis -/

/-- **The analysis of an entry ends as the checks tell**, in every state. -/
theorem endsIn_analyze (options : AnalysisSettings) (schema : Schema) (key : String)
    (members : List (String × Datum)) :
    EndsIn (Analysis.analyze (.ok schema) options
      (Manifest.viewOf (.text key) (.object members)))
      (entryEnding options schema key members) := by
  have hname : EndsIn (liftM ((classOf key members).textFor "rsplit") : Run String)
      (.ofChecks [(isText (classOf key members), .escapes)]) := by
    cases classOf key members <;> exact fun _ => rfl
  -- The steps of the analysis are taken in order, each with the checks that it stands for.
  unfold Analysis.analyze entryEnding checks
  refine EndsIn.bind_fault name_viewOf ?_
  refine EndsIn.bind_fault table_viewOf ?_
  refine EndsIn.bind_checks (by simp) hname fun name => ?_
  refine EndsIn.bind_fault rfl ?_
  refine EndsIn.bind_checks (by simp) endsIn_attributesOf fun attributes => ?_
  refine EndsIn.bind_checks (by simp) endsIn_relationsOf fun relationships => ?_
  refine EndsIn.bind_checks (by simp) endsIn_rulesOf fun rules => ?_
  refine endsIn_elements fun fillable => ?_
  refine endsIn_elements fun guarded => ?_
  refine endsIn_elements fun hidden => ?_
  refine endsIn_casts fun casts => ?_
  refine endsIn_elements fun dates => ?_
  refine EndsIn.bind_fault rfl ?_
  refine EndsIn.bind_fault rfl ?_
  exact EndsIn.pure _

end DartScaffold.Backend
