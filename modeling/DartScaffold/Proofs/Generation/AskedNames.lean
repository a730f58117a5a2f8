/-
**The names that a file asks for.**

Before a file is generated the names that it may need are asked for, and the generator remembers the
answers.  What the template of the file is filled with is told by the settings, the model, and these
names; no other name that the generator remembers is looked at.  So two generators that answer alike
whatever a model asks for fill the templates of its files alike.

Main definitions:

* `Dart.Agrees` — the same settings, and the same answers to what a model asks for.

Main results:

* `Dart.Agrees.fields`, `Dart.Agrees.service` — what a file is filled with, part by part;
* `Dart.Agrees.scope` — **contexts that agree fill the templates of a model alike**.
-/

import Mathlib
import DartScaffold.Dart.Generator

set_option relaxedAutoImplicit false
set_option autoImplicit false

namespace DartScaffold.Dart

open Naming (Names Request)

variable {c c' : Context} {m : Model}

/-- The same settings, and the same answers to what a model asks for. -/
structure Agrees (m : Model) (c c' : Context) : Prop where
  settings : c'.settings = c.settings
  names : ∀ r ∈ nameRequests c m, c'.names.name r = c.names.name r

namespace Agrees

/-! ### What is asked for -/

theorem typeName (h : Agrees m c c') : c'.typeName m = c.typeName m :=
  h.names _ (List.mem_append_left _ (List.mem_cons_self ..))

theorem field (h : Agrees m c c') {a : Attribute} (ha : a ∈ c.included m) :
    c'.names.field a.name = c.names.field a.name :=
  h.names _ (List.mem_append_left _ (List.mem_cons_of_mem _ (List.mem_map_of_mem ha)))

/-- What a further route asks for: the names of its endpoint, of its parameters and of the
placeholders of its path. -/
theorem routeName (h : Agrees m c c') {r : Route} (hr : r ∈ m.customRoutes) {s : String}
    (hs : s ∈ r.endpoint.tag :: (r.parameters.map PathParameter.name ++
      Routing.placeholders (innerPath r.uri))) :
    c'.names.field (.text s) = c.names.field (.text s) := by
  refine h.names _ (List.mem_append_right _ (List.mem_map.2 ⟨s, ?_, rfl⟩))
  exact List.mem_flatMap.2 ⟨r, hr, hs⟩

/-! ### What the settings tell -/

theorem nullSafe (h : Agrees m c c') : c'.nullSafe = c.nullSafe := by
  unfold Context.nullSafe
  rw [h.settings]

theorem mark (h : Agrees m c c') : c'.mark = c.mark := by
  unfold Context.mark
  rw [h.nullSafe]

theorem comment (h : Agrees m c c') (width : Nat) (s : String) :
    c'.comment width s = c.comment width s := by
  unfold Context.comment
  rw [h.settings]

/-! ### Fields -/

theorem fields (h : Agrees m c c') : Dart.fields c' m = Dart.fields c m := by
  have hincluded : c'.included m = c.included m := by
    unfold Context.included Context.isLeftOut
    rw [h.settings]
  unfold Dart.fields
  rw [hincluded]
  refine List.map_congr_left fun a ha => ?_
  unfold Field.ofAttribute
  rw [h.field ha, h.mark]

theorem keyField? (h : Agrees m c c') : Dart.keyField? c' m = Dart.keyField? c m := by
  unfold Dart.keyField?
  rw [h.fields]

theorem inputFields (h : Agrees m c c') : Dart.inputFields c' m = Dart.inputFields c m := by
  unfold Dart.inputFields
  rw [h.fields]

end Agrees

/-! ### Further methods -/

/-- The variables in a path are named as its placeholders are. -/
theorem interpolatePieces_congr {n n' : Names} {pieces : List Routing.Piece}
    (h : ∀ name isOptional, .placeholder name isOptional ∈ pieces →
      n'.field (.text (String.ofList name)) = n.field (.text (String.ofList name))) :
    interpolatePieces n' pieces = interpolatePieces n pieces := by
  induction pieces with
  | nil => rfl
  | cons piece rest ih =>
      have hrest := ih fun name isOptional hmem => h name isOptional (List.mem_cons_of_mem _ hmem)
      cases piece with
      | char ch => simp only [interpolatePieces, hrest]
      | placeholder name isOptional =>
          simp only [interpolatePieces, hrest, h name isOptional (List.mem_cons_self ..)]

namespace Agrees

theorem interpolate (h : Agrees m c c') {r : Route} (hr : r ∈ m.customRoutes) :
    Dart.interpolate c'.names r.uri = Dart.interpolate c.names r.uri := by
  unfold Dart.interpolate
  refine congrArg String.ofList (interpolatePieces_congr fun name isOptional hmem => ?_)
  refine h.routeName hr (List.mem_cons_of_mem _ (List.mem_append_right _ ?_))
  exact List.mem_filterMap.2 ⟨_, hmem, rfl⟩

theorem pathParameters (h : Agrees m c c') {r : Route} (hr : r ∈ m.customRoutes) :
    Dart.pathParameters c'.names r = Dart.pathParameters c.names r := by
  refine List.map_congr_left fun p hp => ?_
  rw [h.routeName hr (List.mem_cons_of_mem _ (List.mem_append_left _ (List.mem_map_of_mem hp)))]

theorem customMethod (h : Agrees m c c') (model : String) (taken : List String) {r : Route}
    (hr : r ∈ m.customRoutes) :
    Dart.customMethod c' model taken r = Dart.customMethod c model taken r := by
  unfold Dart.customMethod
  rw [h.pathParameters hr, h.interpolate hr, h.routeName hr (List.mem_cons_self ..), h.comment]

theorem customMethods (h : Agrees m c c') (model : String) (taken : List String)
    {routes : List Route} (hroutes : ∀ r ∈ routes, r ∈ m.customRoutes) :
    Dart.customMethods c' model taken routes = Dart.customMethods c model taken routes := by
  induction routes generalizing taken with
  | nil => rfl
  | cons r rest ih =>
      have hrest := fun q hq => hroutes q (List.mem_cons_of_mem _ hq)
      simp only [Dart.customMethods, h.customMethod model taken (hroutes r (List.mem_cons_self ..)),
        ih _ hrest]

/-! ### What templates are filled with -/

theorem dataClass (h : Agrees m c c') : Dart.dataClass c' m = Dart.dataClass c m := by
  simp only [Dart.dataClass, h.typeName, h.fields, h.settings, h.nullSafe, h.comment]

theorem service (h : Agrees m c c') : Dart.service c' m = Dart.service c m := by
  simp only [Dart.service, usualMethods, h.typeName, h.settings, h.mark, h.comment,
    h.customMethods _ _ fun r hr => hr]

theorem widget (h : Agrees m c c') (kind : WidgetKind) :
    Dart.widget c' m kind = Dart.widget c m kind := by
  simp only [Dart.widget, h.typeName, h.fields, h.inputFields, h.settings, h.mark, h.comment]

theorem screen (h : Agrees m c c') (kind : ScreenKind) :
    Dart.screen c' m kind = Dart.screen c m kind := by
  simp only [Dart.screen, h.typeName, h.fields, h.keyField?, h.settings, h.nullSafe, h.mark,
    h.comment]

theorem transport (h : Agrees m c c') : Dart.transport c' = Dart.transport c := by
  simp only [Dart.transport, h.settings, h.mark, h.comment]

/-- **Contexts that agree fill the templates of a model alike.** -/
theorem scope (h : Agrees m c c') (a : Artifact) : a.scope c' m = a.scope c m := by
  cases a with
  | dataClass => rw [Artifact.scope, Artifact.scope, h.dataClass]
  | service => rw [Artifact.scope, Artifact.scope, h.service]
  | widget kind => rw [Artifact.scope, Artifact.scope, h.widget]
  | screen kind => rw [Artifact.scope, Artifact.scope, h.screen]
  | transport => rw [Artifact.scope, Artifact.scope, h.transport]

/-- Contexts that agree find the same odd about a model. -/
theorem warnings (h : Agrees m c c') (a : Artifact) : a.warnings c' m = a.warnings c m := by
  cases a with
  | screen kind => simp only [Artifact.warnings, screenWarnings, h.keyField?]
  | _ => rfl

theorem scopeWarnings (h : Agrees m c c') (a : Artifact) :
    a.scopeWarnings c' m = a.scopeWarnings c m := by
  cases a with
  | dataClass => rfl
  | service => exact h.warnings .service
  | widget kind => exact h.warnings (.widget kind)
  | screen kind => exact h.warnings (.screen kind)
  | transport => exact h.warnings .transport

end Agrees

/-- Whether something is told to be odd does not depend on the context. -/
theorem exists_warnings {a : Artifact} {warnings : List String} (h : a.warnings c m = .ok warnings)
    (c' : Context) : ∃ warnings', a.warnings c' m = .ok warnings' := by
  cases a with
  | dataClass => exact ⟨warnings, h⟩
  | _ => exact ⟨_, rfl⟩

end DartScaffold.Dart
