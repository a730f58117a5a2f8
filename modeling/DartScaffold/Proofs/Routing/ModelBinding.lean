/-
**Routes that are bound to a model.**

The member of a collection is reached by a route with a placeholder that is named like the model,
such as `users/{user}` for the users, and what stands for it is the key of the model.  So such a
parameter is a whole number.  The path of the collection is a plural, and the parameter is known by
the singular that is made of it again.  That is not always the name of the model, and then the
parameter is taken for a text.  The kind of a name that speaks for itself is decided before: one
with `uuid` or `guid` in it is a text whatever it belongs to, and one with `_id` at the end a whole
number.

Main definitions:

* `Routing.ReachesMember` — a route entry for a member of a collection.

Main results:

* `Routing.segments_join` — the segments of a path are the names in it;
* `Routing.pieces_join` — a path in which the last name is the only placeholder;
* `Routing.parameterType_eq_int_iff` — which parameters are whole numbers;
* `Routing.ReachesMember.described` — what is described for a route to a member;
* `Routing.parameterType_endpoint` — **which models are recognized**.
-/

import Mathlib
import DartScaffold.Dart.Context
import DartScaffold.Proofs.Files.WrittenPath
import DartScaffold.Proofs.Naming.Singular
import DartScaffold.Proofs.Routing.ManifestEntry
import DartScaffold.Proofs.Routing.RouteTable

set_option relaxedAutoImplicit false
set_option autoImplicit false

namespace DartScaffold.Routing

open Backend (isRouteEntry)
open Dart.Context (endpoint)
open Naming (isSmall)

/-! ### Segments -/

/-- What begins and ends in characters that are kept is not trimmed. -/
theorem trim_eq_self {p : Char → Bool} {cs : List Char}
    (hfirst : ∀ c, cs.head? = some c → p c = false)
    (hlast : ∀ c, cs.getLast? = some c → p c = false) : Text.trim p cs = cs := by
  have hkeep : ∀ cs : List Char, (∀ c, cs.head? = some c → p c = false) → cs.dropWhile p = cs := by
    intro cs h
    cases cs with
    | nil => rfl
    | cons c rest => exact List.dropWhile_cons_of_neg (by rw [h c rfl]; exact Bool.false_ne_true)
  rw [Text.trim, hkeep cs hfirst, Text.trimEnd, hkeep, List.reverse_reverse]
  intro c hc
  exact hlast c (by rwa [List.head?_reverse] at hc)

/-- **The segments of a path are the names in it.** -/
theorem segments_join {names : List String} (h : ∀ n ∈ names, Path.IsName n) :
    segments (Text.join "/" names) = names := by
  by_cases hne : names = []
  · subst hne
    rfl
  have hfirst : ∀ c, (Text.join "/" names).toList.head? = some c → (c == '/') = false := by
    intro c hc
    obtain ⟨rest, hrest⟩ := List.head?_eq_some_iff.1 hc
    have hnone := Path.takeWhile_join h
    rw [hrest, List.takeWhile_cons] at hnone
    cases hslash : c == '/' with
    | false => rfl
    | true =>
        rw [hslash] at hnone
        cases hnone
  have hlast : ∀ c, (Text.join "/" names).toList.getLast? = some c → (c == '/') = false := by
    intro c hc
    obtain ⟨init, last, rfl⟩ := (List.eq_nil_or_concat' names).resolve_left hne
    obtain ⟨hnonempty, -, hslash⟩ := h last (by simp)
    have hletters : last.toList ≠ [] := fun hnil => hnonempty (String.toList_eq_nil_iff.1 hnil)
    rw [Naming.join_concat, String.toList_append, List.getLast?_append_of_ne_nil _ hletters] at hc
    rw [beq_eq_false_iff_ne]
    rintro rfl
    exact hslash (List.mem_of_getLast? hc)
  rw [segments, Text.stripOf, trim_eq_self hfirst hlast, String.ofList_toList,
    Path.split_join hne h, List.filter_eq_self]
  exact fun n hn => bne_iff_ne.2 (h n hn).1

/-! ### Placeholders -/

/-- A name between braces. -/
def braced (name : String) : String := "\x7b" ++ name ++ "\x7d"

theorem toList_braced (name : String) :
    (braced name).toList = '\x7b' :: (name.toList ++ ['\x7d']) := by
  rw [braced, String.toList_append, String.toList_append]
  rfl

/-- A path in which the last name is the only placeholder. -/
theorem pieces_join {init : List String} (hinit : ∀ n ∈ init, '\x7b' ∉ n.toList) {name : String}
    (hname : name ≠ "") (hword : ∀ c ∈ name.toList, Text.isWordChar c = true) :
    ∃ before : List Char, pieces 0 (Text.join "/" (init ++ [braced name])).toList =
      before.map .char ++ [.placeholder name.toList false] := by
  have hbefore : '\x7b' ∉ (Text.join "/" (init ++ [""])).toList := by
    rw [Text.toList_join]
    intro hmem
    obtain hslash | ⟨w, hw, hmem⟩ := Naming.mem_intercalate hmem
    · exact absurd (List.mem_singleton.1 hslash) (by decide)
    · obtain ⟨n, hn, rfl⟩ := List.mem_map.1 hw
      rcases List.mem_append.1 hn with hn | hn
      · exact hinit n hn hmem
      · rw [List.mem_singleton.1 hn] at hmem
        exact absurd hmem List.not_mem_nil
  have hbegins : Begins (braced name).toList name.toList false [] := by
    refine ⟨fun hnil => hname (String.toList_eq_nil_iff.1 hnil), hword, ?_⟩
    rw [toList_braced, List.append_nil]
    rfl
  refine ⟨(Text.join "/" (init ++ [""])).toList, ?_⟩
  rw [Naming.join_concat, String.toList_append, pieces_append hbefore, pieces_of_begins hbegins]
  rfl

/-- The one placeholder of such a path is not optional. -/
theorem placeholders_join {init : List String} (hinit : ∀ n ∈ init, '\x7b' ∉ n.toList)
    {name : String} (hname : name ≠ "") (hword : ∀ c ∈ name.toList, Text.isWordChar c = true) :
    placeholders (Text.join "/" (init ++ [braced name])) = [name] ∧
      optionalNames (Text.join "/" (init ++ [braced name])) = [] := by
  obtain ⟨before, hpieces⟩ := pieces_join hinit hname hword
  rw [placeholders, optionalNames, hpieces]
  simp

/-! ### Names in small letters -/

section Small

variable {w : String} {c : Char}

/-- Small letters, digits and low lines may stand in a placeholder. -/
theorem isWordChar_of_isSmall (h : isSmall w = true) (hc : c ∈ w.toList) :
    Text.isWordChar c = true := by
  rcases Bool.or_eq_true _ _ ▸ List.all_eq_true.1 h c hc with hletter | hline
  · have halphanum := Naming.isAlphanum_of_isWordLetter hletter
    rw [Text.isWordChar, Text.isAlphanumeric, if_pos (Naming.toNat_lt_of_isAlphanum halphanum),
      halphanum, Bool.or_true]
  · rw [Text.isWordChar, hline, Bool.true_or]

theorem isName_of_isSmall (h : isSmall w = true) (hne : w ≠ "") : Path.IsName w := by
  refine ⟨hne, ?_, Naming.not_mem_of_isSmall h (by decide)⟩
  rintro rfl
  exact absurd h (by decide)

theorem isName_braced (h : isSmall w = true) : Path.IsName (braced w) := by
  have hslash := Naming.not_mem_of_isSmall (c := '/') h (by decide)
  refine ⟨?_, ?_, ?_⟩
  · intro hempty
    have hlist := toList_braced w
    rw [hempty] at hlist
    cases hlist
  · intro hdot
    have hlist := toList_braced w
    rw [hdot] at hlist
    exact absurd (List.cons.inj hlist).1 (by decide)
  · rw [toList_braced]
    simp [hslash]

end Small

/-! ### Parameters -/

/-- **Which parameters are whole numbers**: those with the usual names, and those that are named
like a member of the collection, if the name does not tell that it is a text. -/
theorem parameterType_eq_int_iff (parameter resource : String) :
    parameterType parameter (some resource) = .int ↔
      parameter = "id" ∨ Text.endsWith "_id" parameter = true ∨
        (Text.contains "uuid" parameter = false ∧ Text.contains "guid" parameter = false ∧
          resource ≠ "" ∧ Naming.singularize (Naming.snake resource) = parameter) := by
  unfold parameterType
  by_cases hnumber : parameter = "id" ∨ Text.endsWith "_id" parameter = true
  · rw [if_pos hnumber]
    exact iff_of_true rfl (hnumber.imp_right .inl)
  obtain ⟨hid, hending⟩ := not_or.1 hnumber
  rw [if_neg hnumber]
  by_cases htext : Text.contains "uuid" parameter = true ∨ Text.contains "guid" parameter = true
  · rw [if_pos htext]
    refine iff_of_false (by decide) ?_
    rintro (h | h | ⟨huuid, hguid, -⟩)
    · exact hid h
    · exact hending h
    · rw [huuid, hguid] at htext
      exact absurd htext (by decide)
  · obtain ⟨huuid, hguid⟩ := not_or.1 htext
    rw [if_neg htext]
    dsimp only
    rw [eq_comm (a := Naming.singularize _)]
    by_cases hmember : resource ≠ "" ∧ parameter = Naming.singularize (Naming.snake resource)
    · rw [if_pos hmember]
      exact iff_of_true rfl
        (.inr (.inr ⟨Bool.eq_false_iff.2 huuid, Bool.eq_false_iff.2 hguid, hmember⟩))
    · rw [if_neg hmember]
      refine iff_of_false (by decide) ?_
      rintro (h | h | ⟨-, -, h⟩)
      · exact hid h
      · exact hending h
      · exact hmember h

/-- A route entry for a member of a collection: its path is the one of the collection, alone or
behind `api`, and a placeholder, and if its name tells a resource, then it is the collection. -/
structure ReachesMember (members : List (String × Datum)) (collection member : String) : Prop where
  form : isRouteEntry members = true
  path : ∃ uri, members.lookup "uri" = some (.text uri) ∧ ∃ root ∈ [[], ["api"]],
    Text.dropLeading '/' uri = Text.join "/" (root ++ [collection, braced member])
  name : ∀ s, members.lookup "name" = some (.text s) → Text.contains "." s = true →
    beforeDot s = collection

section Member

variable {members : List (String × Datum)} {root : List String} {collection member : String}

/-- What stands before a collection in a path is nothing, or `api`. -/
theorem forall_mem_root {P : String → Prop} (hapi : P "api") (hroot : root ∈ [[], ["api"]]) :
    ∀ n ∈ root, P n := by
  intro n hn
  rcases List.mem_pair.1 hroot with rfl | rfl
  · exact absurd hn List.not_mem_nil
  · rwa [List.mem_singleton.1 hn]

/-- The resource in such a path is the collection. -/
theorem resourceInPath_member (hroot : root ∈ [[], ["api"]]) (hcollection : Path.IsName collection)
    (hapi : collection ≠ "api") {last : String} (hlast : Path.IsName last) :
    resourceInPath (Text.join "/" (root ++ [collection, last])) = some collection := by
  have hnames : ∀ n ∈ root ++ [collection, last], Path.IsName n :=
    List.forall_mem_append.2 ⟨forall_mem_root (by decide) hroot, by simp [hcollection, hlast]⟩
  rw [resourceInPath, segments_join hnames]
  rcases List.mem_pair.1 hroot with rfl | rfl
  · rw [List.nil_append]
    split
    · rename_i hcons
      exact absurd (List.cons.inj hcons).1 hapi
    · rfl
  · rfl

/-- The placeholder in such a path is the only one, since no brace stands before it. -/
theorem placeholders_member (hroot : root ∈ [[], ["api"]]) (hcollection : isSmall collection = true)
    (hmember : isSmall member = true ∧ member ≠ "") :
    placeholders (Text.join "/" (root ++ [collection, braced member])) = [member] ∧
      optionalNames (Text.join "/" (root ++ [collection, braced member])) = [] := by
  have hbraces : ∀ n ∈ root ++ [collection], '\x7b' ∉ n.toList :=
    List.forall_mem_append.2 ⟨forall_mem_root (by decide) hroot,
      List.forall_mem_singleton.2 (Naming.not_mem_of_isSmall hcollection (by decide))⟩
  have honly := placeholders_join hbraces hmember.2 fun c hc => isWordChar_of_isSmall hmember.1 hc
  rwa [List.append_assoc, List.singleton_append] at honly

/-- A name that leaves the resource to the path, or agrees with it. -/
theorem resourceOf_eq {name : Datum} (hform : Backend.isTextOrNull name = true) {path : String}
    (hpath : resourceInPath path = some collection)
    (hname : ∀ s, name = .text s → Text.contains "." s = true → beforeDot s = collection) :
    resourceOf path name = .ok (some collection) := by
  rcases (Backend.isTextOrNull_iff name).1 hform with rfl | ⟨s, rfl⟩
  · rw [← hpath]
    rfl
  · rw [resourceOf_text]
    by_cases hdot : Text.contains "." s = true
    · rw [if_pos hdot, hname s rfl hdot]
    · rw [if_neg hdot, hpath]

/-- **A route to a member is described**, with the collection as its resource and the member as its
only parameter. -/
theorem ReachesMember.described (h : ReachesMember members collection member)
    (hcollection : isSmall collection = true ∧ collection ≠ "") (hapi : collection ≠ "api")
    (hmember : isSmall member = true ∧ member ≠ "") :
    ∃ entry route, Backend.Manifest.entryOf (.object members) = .ok entry ∧
      analyzeEntry entry = .ok route ∧ route.resource = some collection ∧
      route.parameters = [{
        name := member
        required := true
        type := parameterType member (some collection) }] := by
  obtain ⟨hform, ⟨uri, huri, root, hroot, hpath⟩, hname⟩ := h
  obtain ⟨entry, hentry, hplain⟩ := Backend.Manifest.entryOf_plain hform huri
  obtain ⟨route, hroute, hrouteUri, -⟩ := analyzeEntry_plain hplain
  refine ⟨entry, route, hentry, hroute, ?_⟩
  obtain ⟨-, -, name, hentryName, hresource, hparameters⟩ := parts_of_analyzeEntry hroute
  obtain rfl := Except.ok.inj (hentryName.symm.trans (Backend.Manifest.name_of_entryOf hentry))
  have hgiven := hplain.parameters
  rw [← placeholders_dropLeading] at hgiven
  rw [hrouteUri, hpath] at hresource hparameters
  rw [hpath] at hgiven
  -- The resource is the collection, by the name of the route or by its path.
  have htext : Backend.isTextOrNull ((members.lookup "name").getD .null) = true := by
    simp only [isRouteEntry, Bool.and_eq_true] at hform
    exact hform.1.1.2
  have hinPath := resourceInPath_member hroot (isName_of_isSmall hcollection.1 hcollection.2) hapi
    (isName_braced hmember.1)
  have hfound : route.resource = some collection := by
    refine Except.ok.inj (hresource.symm.trans (resourceOf_eq htext hinPath fun s hs => hname s ?_))
    cases hlookup : members.lookup "name" with
    | none =>
        rw [hlookup] at hs
        cases hs
    | some d =>
        rw [hlookup] at hs
        rw [← hs]
        rfl
  refine ⟨hfound, ?_⟩
  obtain ⟨hplaceholders, hoptional⟩ := placeholders_member hroot hcollection.1 hmember
  rw [parametersOf_placeholders route.resource hgiven, hplaceholders, hfound] at hparameters
  rw [← Except.ok.inj hparameters, List.map_singleton, placeholderParameter, hoptional]
  rfl

end Member

/-! ### Models -/

/-- **Which models are recognized.**  The parameter that is named like a model is a whole number on
the collection of the model exactly if it has a usual name of numbers, or else is none of a text and
comes back from its plural.  The routes to the members of the collection are described with this
parameter. -/
theorem parameterType_endpoint {m : Model} (h : Naming.words m.className ≠ []) :
    (parameterType (Naming.snake m.className) (some (endpoint m)) = .int ↔
      Naming.snake m.className = "id" ∨ Text.endsWith "_id" (Naming.snake m.className) = true ∨
        (Text.contains "uuid" (Naming.snake m.className) = false ∧
          Text.contains "guid" (Naming.snake m.className) = false ∧
          Naming.hasTwin (Naming.snake m.className) = false)) ∧
    ∀ members, ReachesMember members (endpoint m) (Naming.snake m.className) →
      ∃ entry route, Backend.Manifest.entryOf (.object members) = .ok entry ∧
        analyzeEntry entry = .ok route ∧ route.resource = some (endpoint m) ∧
        route.parameters = [{
          name := Naming.snake m.className
          required := true
          type := parameterType (Naming.snake m.className) (some (endpoint m)) }] := by
  have hmember := Naming.isSmall_snake m.className
  have hne : Naming.snake m.className ≠ "" :=
    fun hempty => h ((Naming.snake_eq_empty_iff _).1 hempty)
  obtain ⟨hcollection, hends⟩ := Naming.isSmall_pluralize hmember hne
  have hnot : ∀ s, Text.endsWith "s" s = false → endpoint m ≠ s := by
    rintro s hs rfl
    exact Bool.false_ne_true (hs.symm.trans hends)
  constructor
  · have hback : Naming.singularize (Naming.snake (endpoint m)) = Naming.snake m.className ↔ _ :=
      Naming.singularize_snake_pluralize_iff h
    rw [parameterType_eq_int_iff, hback, and_iff_right (hnot "" (by decide))]
  · intro members hreaches
    exact hreaches.described ⟨hcollection, hnot "" (by decide)⟩ (hnot "api" (by decide))
      ⟨hmember, hne⟩

/-- A course is not recognized, though its collection is reached by `courses`. -/
theorem parameterType_endpoint_course :
    let m : Model := { (default : Model) with className := "Course" }
    let members := [("uri", Datum.text "/api/courses/\x7bcourse\x7d"),
      ("name", Datum.text "courses.show")]
    Naming.words m.className ≠ [] ∧ endpoint m = "courses" ∧
      ReachesMember members (endpoint m) (Naming.snake m.className) ∧
      Naming.hasTwin (Naming.snake m.className) = true ∧
      ∃ entry route, Backend.Manifest.entryOf (.object members) = .ok entry ∧
        analyzeEntry entry = .ok route ∧ route.resource = some "courses" ∧
        route.parameters = [{ name := "course", required := true, type := .string }] := by
  intro m members
  have hwords : Naming.words m.className ≠ [] := by decide
  have hmember : Naming.snake m.className = "course" := by decide +kernel
  have hcollection : endpoint m = "courses" := by decide +kernel
  have hreaches : ReachesMember members (endpoint m) (Naming.snake m.className) := by
    rw [hcollection, hmember]
    refine ⟨by decide, ⟨_, rfl, ["api"], by decide, by decide +kernel⟩, ?_⟩
    rintro s ⟨⟩ -
    decide +kernel
  obtain ⟨hiff, hdescribed⟩ := parameterType_endpoint hwords
  obtain ⟨entry, route, hentry, hroute, hresource, hparameters⟩ := hdescribed members hreaches
  have htext : parameterType (Naming.snake m.className) (some (endpoint m)) = .string := by
    cases htype : parameterType (Naming.snake m.className) (some (endpoint m)) with
    | string => rfl
    | int =>
        have hkind := hiff.1 htype
        rw [hmember] at hkind
        exact absurd hkind (by decide +kernel)
  refine ⟨hwords, hcollection, hreaches, by decide +kernel, entry, route, hentry, hroute, ?_, ?_⟩
  · rw [hresource, hcollection]
  · rw [hparameters, htext, hmember]

end DartScaffold.Routing
