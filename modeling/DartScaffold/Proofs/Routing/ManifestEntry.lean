/-
**Route entries of a manifest.**

An entry of the route table has a path, methods, a name, an action and middleware, each a text or
some texts, and most of them may be left out.  From an entry of this form the backend makes a route
and the analysis describes it, whatever the texts are.  The placeholders of the path are looked for
twice, by the backend in the path as it is given, and by the analysis in the path without the
slashes at its beginning if the backend has found none; both find the same.

Main definitions:

* `Backend.isRouteEntry` — an entry of the form that the table asks for.

Main results:

* `Routing.placeholders_dropLeading` — slashes at the beginning do not matter for placeholders;
* `Routing.parametersOf_placeholders` — the parameters of a route are the placeholders of its path;
* `Backend.Manifest.analyzeEntry_entryOf` — **a route entry is described**, with the path and the
  parameters of the entry.
-/

import Mathlib
import DartScaffold.Backend.Manifest
import DartScaffold.Proofs.Routing.Placeholders
import DartScaffold.Proofs.Steps

set_option relaxedAutoImplicit false
set_option autoImplicit false

namespace DartScaffold

/-! ### The form of an entry -/

namespace Backend

/-- A text. -/
def isText : Datum → Bool
  | .text _ => true
  | _ => false

/-- A text, or nothing. -/
def isTextOrNull : Datum → Bool
  | .null => true
  | d => isText d

/-- A list of texts. -/
def isTexts : Datum → Bool
  | .list ds => ds.all isText
  | _ => false

/-- The action of a route: its controller by name, or an object that may hold it. -/
def isAction : Datum → Bool
  | .object members => isTextOrNull ((members.lookup "controller").getD .null)
  | d => isTextOrNull d

/-- An entry of the form that a route table asks for: a path, and for whatever else is given a text
or some texts. -/
def isRouteEntry (members : List (String × Datum)) : Bool :=
  isText ((members.lookup "uri").getD .null) &&
  (["methods", "method"].all fun key =>
    isTextOrNull ((members.lookup key).getD .null) || isTexts ((members.lookup key).getD .null)) &&
  isTextOrNull ((members.lookup "name").getD .null) &&
  isAction ((members.lookup "action").getD .null) &&
  isTexts ((members.lookup "middleware").getD (.list []))

theorem isText_iff (d : Datum) : isText d = true ↔ ∃ s, d = .text s := by
  cases d <;> simp [isText]

theorem isTextOrNull_iff (d : Datum) : isTextOrNull d = true ↔ d = .null ∨ ∃ s, d = .text s := by
  cases d <;> simp [isTextOrNull, isText]

theorem exists_map_text {ds : List Datum} (h : ds.all isText = true) :
    ∃ ss : List String, ds = ss.map .text := by
  induction ds with
  | nil => exact ⟨[], rfl⟩
  | cons d ds ih =>
      rw [List.all_cons, Bool.and_eq_true] at h
      obtain ⟨s, rfl⟩ := (isText_iff d).1 h.1
      obtain ⟨ss, rfl⟩ := ih h.2
      exact ⟨s :: ss, rfl⟩

theorem exists_texts {d : Datum} (h : isTexts d = true) :
    ∃ ss : List String, d = .list (ss.map .text) := by
  cases d with
  | list ds =>
      obtain ⟨ss, rfl⟩ := exists_map_text h
      exact ⟨ss, rfl⟩
  | _ => cases h

end Backend

/-! ### Parameters -/

namespace Routing

/-- Slashes at the beginning do not matter for placeholders. -/
theorem placeholders_dropLeading (uri : String) :
    placeholders (Text.dropLeading '/' uri) = placeholders uri := by
  have hslashes : '\x7b' ∉ uri.toList.takeWhile (· == '/') := by
    intro h
    exact absurd (List.mem_takeWhile_imp h) (by decide)
  have hpieces := pieces_append hslashes (uri.toList.dropWhile (· == '/'))
  rw [List.takeWhile_append_dropWhile] at hpieces
  unfold placeholders Text.dropLeading
  rw [hpieces, String.toList_ofList, List.filterMap_append, List.filterMap_map]
  simp

/-- A list of texts is gone through text by text. -/
theorem mapM_texts {ε α : Type} (f : Datum → Except ε α) (g : String → α)
    (h : ∀ s, f (.text s) = .ok (g s)) (ss : List String) :
    (ss.map Datum.text).mapM f = .ok (ss.map g) := by
  induction ss with
  | nil => rfl
  | cons s ss ih =>
      rw [List.map_cons, List.mapM_cons, h, ih]
      rfl

/-- A placeholder of a path as a parameter. -/
def placeholderParameter (path : String) (resource : Option String) (name : String) :
    PathParameter where
  name := name
  required := !(optionalNames path).contains name
  type := parameterType name resource

/-- **The parameters of a route are the placeholders of its path**, if the backend names those. -/
theorem parametersOf_placeholders {entry : Entry} {path : String} (resource : Option String)
    (h : entry.parameters = .ok (.list ((placeholders path).map .text))) :
    parametersOf entry path resource =
      .ok ((placeholders path).map (placeholderParameter path resource)) := by
  unfold parametersOf
  rw [h]
  cases hp : placeholders path with
  | nil => rfl
  | cons name names =>
      -- A list that is not empty is taken as it is.
      exact mapM_texts (ε := Fault) (fun d => do
        if !d.hashable then throw (.misuse (.unhashable d.kindName))
        return placeholderParameter path resource (← (d.textFor "endswith" : Except Misuse String)))
        (placeholderParameter path resource) (fun _ => rfl) (name :: names)

/-! ### The rules for texts -/

/-- A name with a dot tells the resource, and any other one leaves it to the path. -/
theorem resourceOf_text (path s : String) :
    resourceOf path (.text s) =
      .ok (if Text.contains "." s then some (beforeDot s) else resourceInPath path) := by
  unfold resourceOf
  by_cases hdot : Text.contains "." s = true
  · have hs : (Datum.text s).truthy = true := by
      rw [Datum.truthy, bne_iff_ne]
      rintro rfl
      exact absurd hdot (by decide)
    simp only [hs, if_true, Datum.holds, hdot, bind, Except.bind, Datum.textFor]
    rfl
  · rw [if_neg hdot]
    by_cases hs : (Datum.text s).truthy = true
    · simp only [hs, if_true, Datum.holds, hdot, bind, Except.bind]
      rfl
    · simp only [hs]
      rfl

/-- A name that is a text or nothing tells a resource, or leaves it to the path. -/
theorem resourceOf_ok {name : Datum} (h : Backend.isTextOrNull name = true) (path : String) :
    ∃ resource, resourceOf path name = .ok resource := by
  rcases (Backend.isTextOrNull_iff name).1 h with rfl | ⟨s, rfl⟩
  · exact ⟨_, rfl⟩
  · exact ⟨_, resourceOf_text path s⟩

/-- A controller that is a text or nothing tells an action, or none. -/
theorem actionOf_ok {controller : Datum} (h : Backend.isTextOrNull controller = true) :
    ∃ action, actionOf controller = .ok action := by
  rcases (Backend.isTextOrNull_iff controller).1 h with rfl | ⟨s, rfl⟩
  · exact ⟨none, rfl⟩
  · unfold actionOf
    by_cases hs : (Datum.text s).truthy = true
    · by_cases hat : Text.contains "@" s = true
      · simp only [hs, Bool.not_true, Bool.false_eq_true, if_false, Datum.holds, hat, bind,
          Except.bind, Datum.textFor]
        split
        · exact ⟨none, rfl⟩
        · rename_i action _ _
          exact ⟨some action, rfl⟩
        · exact ⟨none, rfl⟩
      · exact ⟨none, by simp only [hs, Datum.holds, hat, bind, Except.bind]; rfl⟩
    · exact ⟨none, by simp only [hs]; rfl⟩

/-! ### Entries that answer with texts -/

/-- An entry that answers every question with texts, and names the placeholders of its path. -/
structure Entry.Plain (entry : Entry) (path : String) : Prop where
  uri : entry.uri = .ok (.text path)
  methods : ∃ ss : List String, entry.methods = .ok (.list (ss.map .text))
  name : ∃ d, entry.name = .ok d ∧ Backend.isTextOrNull d = true
  action : ∃ ms, entry.action = .ok (.object ms) ∧
    Backend.isTextOrNull ((ms.lookup "controller").getD .null) = true
  middleware : ∃ ss : List String, entry.middleware = .ok (.list (ss.map .text))
  parameters : entry.parameters = .ok (.list ((placeholders path).map .text))

/-- The first method of a route is one of its methods, or else `GET`. -/
theorem primaryMethod_mem (methods : List String) : primaryMethod methods ∈ "GET" :: methods := by
  unfold primaryMethod
  split
  · rename_i m rest hfilter
    have hm : m ∈ methods.filter fun m => !secondaryMethods.contains m := by
      rw [hfilter]
      exact List.mem_cons_self ..
    exact List.mem_cons_of_mem _ (List.mem_of_mem_filter hm)
  · cases methods with
    | nil => exact List.mem_cons_self ..
    | cons m rest => exact List.mem_cons_of_mem _ (List.mem_cons_self ..)

/-- **An entry that answers with texts is described**, with the path and the placeholders that it
has. -/
theorem analyzeEntry_plain {entry : Entry} {uri : String} (h : entry.Plain uri) :
    ∃ r, analyzeEntry entry = .ok r ∧ r.uri = Text.dropLeading '/' uri ∧
      r.parameters.map PathParameter.name = placeholders uri ∧ ∃ s, r.primary = Text.upper s := by
  obtain ⟨huri, ⟨ss, hmethods⟩, ⟨name, hname, hnull⟩, ⟨ms, haction, hcontroller⟩, ⟨used, hused⟩,
    hparameters⟩ := h
  have hpath : pathOf entry = .ok (Text.dropLeading '/' uri) := by
    rw [pathOf, huri]
    rfl
  have hupper := mapM_texts (ε := Fault) (fun m => do
    return Text.upper (← (m.textFor "upper" : Except Misuse String))) Text.upper (fun _ => rfl) ss
  obtain ⟨action, hactionName⟩ := actionOf_ok hcontroller
  obtain ⟨resource, hresource⟩ := resourceOf_ok hnull (Text.dropLeading '/' uri)
  obtain ⟨ds, hds⟩ := Datum.asSet_texts used
  rw [← Datum.elementsOrNone_list] at hds
  rw [← placeholders_dropLeading uri] at hparameters
  have hps := parametersOf_placeholders resource hparameters
  let path := Text.dropLeading '/' uri
  let primary := primaryMethod (ss.map Text.upper)
  refine ⟨{
      uri := path
      methods := ss.map Text.upper
      primary := primary
      endpoint := endpointOf path primary action
      name := name
      controller := (ms.lookup "controller").getD .null
      action := action
      parameters := (placeholders path).map (placeholderParameter path resource)
      middleware := ds
      resource := resource
      isApi := Text.startsWith apiRoot path
      requiresAuth := ds.any fun d => authMiddleware.any fun a => d.same (.text a) },
    ?_, rfl, ?_, ?_⟩
  · unfold analyzeEntry
    rw [hpath, hmethods, haction, hused, hname]
    simp only [bind, Except.bind] at hupper
    simp only [bind, Except.bind, Datum.items, liftM_ok, hupper]
    by_cases ht : (Datum.object ms).truthy = true
    · simp only [ht, if_true, Datum.memberFor_object, liftM_ok, hactionName, hds, hresource, hps]
      rfl
    · -- An action without members is none, and then there is no controller.
      have hms : ms = [] := by simpa [Datum.truthy] using ht
      subst hms
      rw [if_neg ht]
      simp only [pure, Except.pure, show actionOf .null = .ok action from hactionName, liftM_ok,
        hds, hresource, hps]
      rfl
  · rw [List.map_map, ← placeholders_dropLeading uri]
    exact List.map_id _
  · -- `GET` is a text in capitals, too.
    rcases List.mem_cons.1 (primaryMethod_mem (ss.map Text.upper)) with hget | hmem
    · exact ⟨"get", hget.trans (by decide)⟩
    · obtain ⟨s, -, hs⟩ := List.mem_map.1 hmem
      exact ⟨s, hs.symm⟩

end Routing

/-! ### Entries -/

namespace Backend.Manifest

/-- One of two values that are a text or some texts. -/
theorem orElse_texts {d other : Datum} (hd : isTextOrNull d || isTexts d)
    (hother : (∃ s, other = .text s) ∨ ∃ ss : List String, other = .list (ss.map .text)) :
    (∃ s, d.orElse other = .text s) ∨
      ∃ ss : List String, d.orElse other = .list (ss.map .text) := by
  unfold Datum.orElse
  by_cases ht : d.truthy = true
  · rw [if_pos ht]
    rcases Bool.or_eq_true _ _ ▸ hd with h | h
    · rcases (isTextOrNull_iff d).1 h with rfl | ⟨s, rfl⟩
      · cases ht
      · exact .inl ⟨s, rfl⟩
    · exact .inr (exists_texts h)
  · rw [if_neg ht]
    exact hother

/-- The methods of an entry as they are given, under one of two names. -/
def givenMethods (members : List (String × Datum)) : Datum :=
  ((members.lookup "methods").getD .null).orElse
    (((members.lookup "method").getD .null).orElse (.list [.text "GET"]))

theorem givenMethods_texts {members : List (String × Datum)} (h : isRouteEntry members = true) :
    (∃ s, givenMethods members = .text s) ∨
      ∃ ss : List String, givenMethods members = .list (ss.map .text) := by
  simp only [isRouteEntry, Bool.and_eq_true, List.all_cons] at h
  obtain ⟨⟨⟨⟨-, hmethods, hmethod, -⟩, -⟩, -⟩, -⟩ := h
  exact orElse_texts hmethods (orElse_texts hmethod (.inr ⟨["GET"], rfl⟩))

/-- A method in capitals. -/
def upperMethod (m : Datum) : Except Misuse Datum := do
  return .text (Text.upper (← m.textFor "upper"))

theorem methodsOf_object (members : List (String × Datum)) :
    methodsOf (.object members) = (do
      let items ← match givenMethods members with
        | .text s => pure [.text s]
        | given => given.items
      return .list (← items.mapM upperMethod)) := rfl

/-- The methods of an entry, in capitals. -/
theorem methodsOf_ok {members : List (String × Datum)} (h : isRouteEntry members = true) :
    ∃ ss : List String, methodsOf (.object members) =
      .ok (.list (ss.map fun s => .text (Text.upper s))) := by
  rw [methodsOf_object]
  rcases givenMethods_texts h with ⟨s, hs⟩ | ⟨ss, hss⟩
  · rw [hs]
    exact ⟨[s], rfl⟩
  · rw [hss]
    refine ⟨ss, ?_⟩
    show (do return Datum.list (← (ss.map Datum.text).mapM upperMethod)) = _
    rw [Routing.mapM_texts upperMethod (fun s => .text (Text.upper s)) (fun _ => rfl)]
    rfl

/-- The action of an entry, with the controller as a member. -/
theorem actionOf_ok {members : List (String × Datum)} (h : isRouteEntry members = true) :
    ∃ ms, actionOf (.object members) = .ok (.object ms) ∧
      isTextOrNull ((ms.lookup "controller").getD .null) = true := by
  simp only [isRouteEntry, Bool.and_eq_true] at h
  have haction := h.1.2
  unfold actionOf
  simp only [Datum.memberFor, Datum.membersFor, bind, Except.bind, pure, Except.pure]
  generalize (members.lookup "action").getD .null = action at haction
  cases action with
  | object ms => exact ⟨ms, rfl, haction⟩
  | null => exact ⟨[], rfl, rfl⟩
  | text s =>
      by_cases hs : (Datum.text s).truthy = true
      · exact ⟨[("controller", .text s)], by simp only [hs, if_true], rfl⟩
      · exact ⟨[], by simp only [hs, Bool.false_eq_true, if_false], rfl⟩
  | _ => cases haction

theorem any_same_of_lookup {members : List (String × Datum)} {key : String} {d : Datum}
    (h : members.lookup key = some d) :
    (members.any fun m => (Datum.text key).same (.text m.1)) = true := by
  refine List.any_eq_true.2 ⟨(key, d), Entries.mem_of_lookup h, ?_⟩
  simp [Datum.same]

/-- A route entry answers with texts. -/
theorem entryOf_plain {members : List (String × Datum)} (h : isRouteEntry members = true)
    {uri : String} (huri : members.lookup "uri" = some (.text uri)) :
    ∃ entry, entryOf (.object members) = .ok entry ∧ entry.Plain uri := by
  obtain ⟨ss, hmethods⟩ := methodsOf_ok h
  obtain ⟨ms, haction, hcontroller⟩ := actionOf_ok h
  have hheld : (members.any fun m => (Datum.text "uri").same (.text m.1)) = true :=
    any_same_of_lookup huri
  simp only [isRouteEntry, Bool.and_eq_true] at h
  obtain ⟨⟨⟨-, hname⟩, -⟩, hmiddleware⟩ := h
  obtain ⟨used, hused⟩ := exists_texts hmiddleware
  refine ⟨{
      uri := .ok (.text uri)
      methods := .ok (.list (ss.map fun s => .text (Text.upper s)))
      name := .ok ((members.lookup "name").getD .null)
      action := .ok (.object ms)
      middleware := .ok (.list (used.map .text))
      parameters := .ok (.list ((Routing.placeholders uri).map .text)) }, ?_, ?_⟩
  · unfold entryOf
    simp only [Datum.holds, Datum.hashable, if_true, hheld, Datum.member, huri, Datum.memberFor,
      Datum.membersFor, hmethods, haction, bind, Except.bind, pure, Except.pure, hused, liftM,
      monadLift, MonadLift.monadLift, Except.mapError]
    rfl
  · exact {
      uri := rfl
      methods := ⟨ss.map Text.upper, by rw [List.map_map]; rfl⟩
      name := ⟨_, rfl, hname⟩
      action := ⟨ms, rfl, hcontroller⟩
      middleware := ⟨used, rfl⟩
      parameters := rfl }

/-- The name of an entry is a member of it, and may be left out. -/
theorem name_of_entryOf {members : List (String × Datum)} {entry : Routing.Entry}
    (h : entryOf (.object members) = .ok entry) :
    entry.name = .ok ((members.lookup "name").getD .null) := by
  unfold entryOf at h
  obtain ⟨_, -, h⟩ := exists_of_bind_eq_ok h
  split_ifs at h
  · cases h
  · obtain rfl := Except.ok.inj h
    rfl

/-- **A route entry is described**, with the path and the placeholders of the entry. -/
theorem analyzeEntry_entryOf {members : List (String × Datum)} (h : isRouteEntry members = true)
    {uri : String} (huri : members.lookup "uri" = some (.text uri)) :
    ∃ entry r, entryOf (.object members) = .ok entry ∧ Routing.analyzeEntry entry = .ok r ∧
      r.uri = Text.dropLeading '/' uri ∧
      r.parameters.map PathParameter.name = Routing.placeholders uri ∧
      ∃ s, r.primary = Text.upper s := by
  obtain ⟨entry, hentry, hplain⟩ := entryOf_plain h huri
  obtain ⟨r, hr, hdescribed⟩ := Routing.analyzeEntry_plain hplain
  exact ⟨entry, r, hentry, hr, hdescribed⟩

end Backend.Manifest

end DartScaffold
