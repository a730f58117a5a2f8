/-
**The path of a request and its variables.**

A route of a manifest becomes a method whose path is written with a variable for each placeholder.
Three parts look for the placeholders of the route: the backend in the path as it is given, the
analysis without the slashes at its beginning, and the service without the beginning that the
address holds already.  Nothing of what they leave out has a brace, so they find the same ones; and
the variables of the written path are the parameters of the method, in this order.  A method with a
body has one more parameter behind them, whose name is the first one of `data`, `body`, `bodyData`,
`bodyDataData`, … that none of them has.

Main definitions:

* `Dart.Within` — what a path is within the interface;
* `Dart.nextBodyName`, `Dart.FirstFree` — the search for the name of a body.

Main results:

* `Dart.firstFree_bodyNameFor` — **the search for the name of a body ends**;
* `Dart.hasBody_iff` — a route has a body exactly for three methods;
* `Dart.customMethod_entryOf` — **the path of a route reads back as its pieces**, with the
  parameters of its method for variables.
-/

import Mathlib
import DartScaffold.Proofs.Routing.ManifestEntry
import DartScaffold.Proofs.Service.MethodNames
import DartScaffold.Proofs.Service.StringBody
import DartScaffold.Proofs.Text.LetterCase

set_option relaxedAutoImplicit false
set_option autoImplicit false

namespace DartScaffold.Dart

open Naming (Names)
open Routing (Piece)

/-! ### Paths within the interface -/

/-- What a path is within the interface: the slashes at its beginning are left out, and one `api/`
behind them. -/
def Within (path inner : List Char) : Prop :=
  ∃ slashes rest, path = slashes ++ rest ∧ (∀ c ∈ slashes, c = '/') ∧ rest.head? ≠ some '/' ∧
    (rest = apiStart.toList ++ inner ∨ ¬ apiStart.toList <+: rest ∧ rest = inner)

theorem within_innerPath (path : String) : Within path.toList (innerPath path).toList := by
  refine ⟨path.toList.takeWhile (· == '/'), path.toList.dropWhile (· == '/'),
    List.takeWhile_append_dropWhile.symm, ?_, ?_, ?_⟩
  · intro c hc
    simpa using List.mem_takeWhile_imp hc
  · intro hhead
    have := List.head?_dropWhile_not (· == '/') path.toList
    rw [hhead] at this
    exact absurd this (by decide)
  · unfold innerPath Text.dropLeading Text.startsWith
    by_cases hp : apiStart.toList.isPrefixOf (path.toList.dropWhile (· == '/')) = true
    · simp only [String.toList_ofList, hp, if_true]
      obtain ⟨inner, hinner⟩ := List.isPrefixOf_iff_prefix.1 hp
      refine .inl ?_
      rw [← hinner, show apiStart.length = apiStart.toList.length from rfl, List.drop_left]
    · simp only [String.toList_ofList, hp]
      exact .inr ⟨fun h => hp (List.isPrefixOf_iff_prefix.2 h), by simp⟩

theorem mem_of_mem_within {path inner : List Char} (h : Within path inner) {c : Char}
    (hc : c ∈ inner) : c ∈ path := by
  obtain ⟨slashes, rest, rfl, -, -, hrest⟩ := h
  refine List.mem_append_right _ ?_
  rcases hrest with rfl | ⟨-, rfl⟩
  · exact List.mem_append_right _ hc
  · exact hc

/-- Slashes at the beginning do not matter for what a path is within the interface. -/
theorem innerPath_dropLeading (path : String) :
    innerPath (Text.dropLeading '/' path) = innerPath path := by
  unfold innerPath
  have : Text.dropLeading '/' (Text.dropLeading '/' path) = Text.dropLeading '/' path := by
    unfold Text.dropLeading
    rw [String.toList_ofList, List.dropWhile_idempotent]
  rw [this]

/-- The names in placeholders. -/
def placeholderNames (ps : List Piece) : List String :=
  ps.filterMap fun
    | .placeholder name _ => some (String.ofList name)
    | .char _ => none

theorem placeholderNames_append_chars (before : List Char) (ps : List Piece) :
    placeholderNames (before.map .char ++ ps) = placeholderNames ps := by
  unfold placeholderNames
  rw [List.filterMap_append, List.filterMap_map]
  simp

/-- What is left out of a path has no placeholders. -/
theorem placeholderNames_within {path inner : List Char} (h : Within path inner) :
    placeholderNames (Routing.pieces 0 inner) = placeholderNames (Routing.pieces 0 path) := by
  obtain ⟨slashes, rest, rfl, hslashes, -, hrest⟩ := h
  -- Neither the slashes nor `api/` have a brace, so no placeholder begins in them.
  have hbrace : '\x7b' ∉ slashes := fun hmem => absurd (hslashes _ hmem) (by decide)
  rw [Routing.pieces_append hbrace, placeholderNames_append_chars]
  rcases hrest with rfl | ⟨-, rfl⟩
  · have hapi : '\x7b' ∉ apiStart.toList := by decide
    rw [Routing.pieces_append hapi, placeholderNames_append_chars]
  · rfl

/-- The variables of a path that is read are the names of its placeholders as fields. -/
theorem filterMap_name?_ofPiece (names : Names) (ps : List Piece) :
    (ps.map (Part.ofPiece names)).filterMap Part.name? =
      (placeholderNames ps).map fun s => names.field (.text s) := by
  induction ps with
  | nil => rfl
  | cons p ps ih =>
      cases p with
      | char c => exact ih
      | placeholder name isOptional =>
          show names.field (.text (String.ofList name)) :: _ = _ :: _
          rw [ih]
          rfl

/-! ### The name of a body -/

/-- The name that is tried behind another one. -/
def nextBodyName (name : String) : String := if name = "data" then "body" else name ++ "Data"

/-- A name is the first one of the search that no parameter has. -/
def FirstFree (own : List Parameter) (name : String) : Prop :=
  ∃ k, name = nextBodyName^[k] "data" ∧ name ∉ own.map Parameter.name ∧
    ∀ j < k, nextBodyName^[j] "data" ∈ own.map Parameter.name

/-- The names behind the first one are `body` with some `Data` behind it. -/
theorem toList_iterate_nextBodyName (k : ℕ) :
    (nextBodyName^[k + 1] "data").toList =
      "body".toList ++ (List.replicate k "Data".toList).flatten := by
  induction k with
  | zero => decide
  | succ k ih =>
      have hne : nextBodyName^[k + 1] "data" ≠ "data" := by
        intro h
        rw [h] at ih
        exact absurd (congrArg List.head? ih) (by simp)
      rw [Function.iterate_succ_apply', nextBodyName, if_neg hne, String.toList_append, ih,
        List.append_assoc, List.replicate_succ', List.flatten_append, List.flatten_singleton]

/-- No two of the names are the same. -/
theorem iterate_nextBodyName_injective :
    Function.Injective fun k => nextBodyName^[k] "data" := by
  have hdata : ∀ k, nextBodyName^[0] "data" ≠ nextBodyName^[k + 1] "data" := by
    intro k h
    have hlist := toList_iterate_nextBodyName k
    rw [← h] at hlist
    exact absurd (congrArg List.head? hlist) (by simp)
  have hlength : ∀ k, (nextBodyName^[k + 1] "data").toList.length = 4 + k * 4 := by
    intro k
    rw [toList_iterate_nextBodyName, List.length_append, List.length_flatten, List.map_replicate,
      List.sum_replicate]
    rfl
  intro i j h
  -- Only the first two names are equally long.
  cases i with
  | zero =>
      cases j with
      | zero => rfl
      | succ j => exact absurd h (hdata j)
  | succ i =>
      cases j with
      | zero => exact absurd h.symm (hdata i)
      | succ j =>
          have hlen := congrArg (fun s => s.toList.length) h
          simp only [hlength] at hlen
          omega

/-- The names are tried in the order of the search. -/
theorem bodyNames_eq (count : ℕ) :
    bodyNames count = (List.range (count + 1)).map fun k => nextBodyName^[k] "data" := by
  unfold bodyNames
  rw [List.range_succ_eq_map, List.map_cons, List.map_map]
  refine congrArg ("data" :: ·) (List.map_congr_left ?_)
  intro k _
  rw [← String.toList_inj, Function.comp_apply, toList_iterate_nextBodyName, String.toList_append,
    Naming.toList_join_empty, List.map_replicate]

/-- **The search for the name of a body ends** with the first one that is free. -/
theorem firstFree_bodyNameFor (own : List Parameter) : FirstFree own (bodyNameFor own) := by
  have hlt : (own.map Parameter.name).length < own.length + 1 + 1 := by
    rw [List.length_map]
    omega
  obtain ⟨k, hfind, hfree, hbefore⟩ := Naming.find?_free iterate_nextBodyName_injective hlt
  have hname : bodyNameFor own = nextBodyName^[k] "data" := by
    unfold bodyNameFor
    rw [bodyNames_eq]
    have hsame : (fun name => !own.any fun p => p.name == name) =
        fun s => !(own.map Parameter.name).contains s := by
      funext name
      rw [List.contains_eq_any_beq, List.any_map]
      simp [Function.comp_def, Bool.beq_comm]
    rw [hsame, hfind, Option.getD_some]
  exact ⟨k, hname, hname ▸ hfree, hbefore⟩

/-- A route has a body exactly for three methods, whatever its method is written like. -/
theorem hasBody_iff {r : Route} (h : ∃ s, r.primary = Text.upper s) :
    bodyVerbs.contains (verbOf r) = true ↔ r.primary ∈ ["POST", "PUT", "PATCH"] := by
  obtain ⟨s, hs⟩ := h
  have hverb : ∀ w ∈ bodyVerbs, ∀ W, Text.isPlainWord w = true →
      String.ofList (w.toList.map Char.toUpper) = W → Text.lower W = w →
        (Text.lower r.primary = w ↔ r.primary = W) := by
    rintro w - W hw rfl hback
    rw [hs]
    exact Text.lower_upper_eq_iff hw hback
  have hpost := hverb "post" (by decide) "POST" (by decide) (by decide) (by decide)
  have hput := hverb "put" (by decide) "PUT" (by decide) (by decide) (by decide)
  have hpatch := hverb "patch" (by decide) "PATCH" (by decide) (by decide) (by decide)
  have hlower : bodyVerbs.contains (verbOf r) = true ↔ Text.lower r.primary ∈ bodyVerbs := by
    unfold verbOf
    by_cases hknown : transportVerbs.contains (Text.lower r.primary) = true
    · simp only [hknown, if_true]
      simp
    · -- A verb that the transport does not know becomes `get`, which has no body.
      have hsub : bodyVerbs ⊆ transportVerbs := by decide
      simp only [hknown, Bool.false_eq_true, if_false]
      exact iff_of_false (by decide) fun hmem => hknown (List.contains_iff_mem.2 (hsub hmem))
  rw [hlower]
  simp only [bodyVerbs, List.mem_cons, List.not_mem_nil, or_false, hpost, hput, hpatch]

/-- The parameters of a method are those of the path, and perhaps one for the body. -/
theorem parameters_customMethod (c : Context) (model : String) (taken : List String) (r : Route) :
    (customMethod c model taken r).parameters = pathParameters c.names r ++
      if bodyVerbs.contains (verbOf r) then
        [bodyParameter (bodyNameFor (pathParameters c.names r))] else [] := by
  unfold customMethod
  by_cases hbody : bodyVerbs.contains (verbOf r) = true
  · simp only [hbody, if_true]
  · simp only [hbody]
    rfl

/-! ### From the entry of a manifest to the path of a request -/

/-- **The path of a route reads back as its pieces.**  From each route entry of a manifest, if its
path is plain, the backend, the analysis and the service make a method.  The path of the method
reads as the path within the interface, with the name of a field for each placeholder; and its
parameters are these names in order, with one for the body behind them if the method of the route
is one of three, under a name that none of them has. -/
theorem customMethod_entryOf {c : Context} (hc : Learned c.names) (model : String)
    (taken : List String) {members : List (String × Datum)}
    (h : Backend.isRouteEntry members = true) {uri : String}
    (huri : members.lookup "uri" = some (.text uri))
    (hplain : ∀ ch ∈ uri.toList, isPlain ch = true) :
    ∃ entry r, Backend.Manifest.entryOf (.object members) = .ok entry ∧
      Routing.analyzeEntry entry = .ok r ∧
      ∃ inner ps own, Within uri.toList inner ∧ Routing.Reading inner ps ∧
        readBody? (customMethod c model taken r).path.toList =
          some (ps.map (Part.ofPiece c.names)) ∧
        (ps.map (Part.ofPiece c.names)).filterMap Part.name? = own.map Parameter.name ∧
        if r.primary ∈ ["POST", "PUT", "PATCH"] then
          ∃ body, FirstFree own body ∧
            (customMethod c model taken r).parameters = own ++ [bodyParameter body]
        else (customMethod c model taken r).parameters = own := by
  obtain ⟨entry, r, hentry, hr, hpath, hnames, hprimary⟩ :=
    Backend.Manifest.analyzeEntry_entryOf h huri
  have hwithin := within_innerPath uri
  have hinner : innerPath r.uri = innerPath uri := by rw [hpath, innerPath_dropLeading]
  have hchars : ∀ ch, .char ch ∈ Routing.pieces 0 (innerPath uri).toList → isPlain ch = true :=
    fun ch hch => hplain ch (mem_of_mem_within hwithin (Routing.mem_of_char_mem_pieces hch))
  refine ⟨entry, r, hentry, hr, (innerPath uri).toList,
    Routing.pieces 0 (innerPath uri).toList, pathParameters c.names r, hwithin,
    (Routing.reading_iff _ _).2 rfl, ?_, ?_, ?_⟩
  · show readBody? (interpolate c.names r.uri).toList = _
    rw [interpolate, hinner, String.toList_ofList]
    exact readBody?_interpolatePieces hc hchars
  · rw [filterMap_name?_ofPiece, placeholderNames_within hwithin]
    show (Routing.placeholders uri).map _ = _
    rw [← hnames, pathParameters, List.map_map, List.map_map]
    rfl
  · rw [parameters_customMethod]
    by_cases hbody : r.primary ∈ ["POST", "PUT", "PATCH"]
    · rw [if_pos hbody, if_pos ((hasBody_iff hprimary).2 hbody)]
      exact ⟨_, firstFree_bodyNameFor _, rfl⟩
    · rw [if_neg hbody, if_neg fun hb => hbody ((hasBody_iff hprimary).1 hb), List.append_nil]

/-- A path with placeholders side by side, before a letter, and named like a body. -/
def invitePath : String := "/api/teams/\x7bteam\x7d\x7brole?\x7d/\x7bdata\x7dé"

/-- A route with a body. -/
def inviteRoute : List (String × Datum) :=
  [("uri", .text invitePath), ("method", .text "post"), ("name", .null)]

theorem customMethod_entryOf_invite :
    Learned sanitizer.names ∧ Backend.isRouteEntry inviteRoute = true ∧
      (∀ ch ∈ invitePath.toList, isPlain ch = true) ∧
      ∃ entry r, Backend.Manifest.entryOf (.object inviteRoute) = .ok entry ∧
        Routing.analyzeEntry entry = .ok r ∧
        ∃ ps : List Piece,
          readBody? (customMethod ⟨.standard, sanitizer.names⟩ "Team" [] r).path.toList =
            some (ps.map (Part.ofPiece sanitizer.names)) ∧
          (r.primary = "POST" → ∃ own body,
            (customMethod ⟨.standard, sanitizer.names⟩ "Team" [] r).parameters =
              own ++ [bodyParameter body] ∧ body ∉ own.map Parameter.name) := by
  have hplain : ∀ ch ∈ invitePath.toList, isPlain ch = true := by
    simp [invitePath, isPlain]
  have hentry : Backend.isRouteEntry inviteRoute = true := by decide
  refine ⟨.new, hentry, hplain, ?_⟩
  obtain ⟨entry, r, hentry, hr, inner, ps, own, -, -, hread, -, hparameters⟩ :=
    customMethod_entryOf (c := ⟨.standard, sanitizer.names⟩) .new "Team" []
      hentry rfl hplain
  refine ⟨entry, r, hentry, hr, ps, hread, ?_⟩
  intro hpost
  rw [if_pos (by rw [hpost]; decide)] at hparameters
  obtain ⟨body, ⟨k, -, hfree, -⟩, hlast⟩ := hparameters
  exact ⟨own, body, hlast, hfree⟩

end DartScaffold.Dart
