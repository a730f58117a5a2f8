/-
**The files that are generated.**

Files belong to five components: data classes, services, widgets, screens and the transport.  For a
model there is one data class, one service, three widgets and four screens; the transport is shared.
Each file has a place, a template, and what the template is filled with.

Main definitions:

* `Dart.Component` — the components;
* `Dart.Artifact`, `Dart.Artifact.ofKind`, `Dart.Artifact.ofOptions` — the files, and the one that
  is asked for;
* `Dart.Artifact.path`, `Dart.Artifact.templateStem`, `Dart.Artifact.scope` — place, template and
  what fills it;
* `Dart.Artifact.warnings`, `Dart.Artifact.scopeWarnings` — what is odd about the model for that
  file.

Main results:

* `Dart.Artifact.component_ofKind`, `Dart.Artifact.component_ofOptions` — what is asked of a
  component is one of its files.
-/

import DartScaffold.Dart.DataClass
import DartScaffold.Dart.Screen
import DartScaffold.Dart.Service
import DartScaffold.Dart.Transport
import DartScaffold.Dart.Widget
import DartScaffold.Template.Render

set_option relaxedAutoImplicit false
set_option autoImplicit false

namespace DartScaffold.Dart

/-! ### Components -/

/-- The components that files belong to. -/
inductive Component where
  | model
  | service
  | widget
  | screen
  | transport
deriving DecidableEq, Repr, Inhabited

namespace Component

/-- The name of a component. -/
def name : Component → String
  | .model => "model"
  | .service => "service"
  | .widget => "widget"
  | .screen => "screen"
  | .transport => "api_base"

/-- The components. -/
def all : List Component := [.model, .service, .widget, .screen, .transport]

/-- The name of the generator of a component. -/
def generatorName : Component → String
  | .model => "DartModelGenerator"
  | .service => "ApiServiceGenerator"
  | .widget => "WidgetGenerator"
  | .screen => "ScreenGenerator"
  | .transport => "ApiClientBaseGenerator"

/-- The name of the module of a component's generator. -/
def moduleName (c : Component) : String := qualifiedName c.name

/-- The folder that a component is written to. -/
def folder : Component → Folder
  | .model => .models
  | .service | .transport => .services
  | .widget => .widgets
  | .screen => .screens

/-- What stands behind the name of a component's files. -/
def ending : Component → String
  | .service => "_service"
  | _ => ""

/-- The path of the file of a component with a name. -/
def path (o : OutputSettings) (c : Component) (name : String) : Except Misuse Path :=
  filePath o c.folder name c.ending

end Component

/-! ### Files -/

/-- A file that is generated. -/
inductive Artifact where
  | dataClass
  | service
  | widget (kind : WidgetKind)
  | screen (kind : ScreenKind)
  | transport
deriving DecidableEq, Repr, Inhabited

/-- The first of two options that counts as something. -/
def eitherOption (first second : String) (options : Datum) (usual : String) :
    Except Misuse Datum := do
  let given := options.orElse (.object [])
  let a ← given.memberFor first .null
  if a.truthy then return a
  let b ← given.memberFor second .null
  return b.orElse (.text usual)

namespace Artifact

/-- The component that a file belongs to. -/
def component : Artifact → Component
  | .dataClass => .model
  | .service => .service
  | .widget _ => .widget
  | .screen _ => .screen
  | .transport => .transport

/-- The file of a component, and of a kind if the component has several. -/
def ofKind (c : Component) (kind : Datum) : Except Fault Artifact :=
  match c with
  | .model => .ok .dataClass
  | .service => .ok .service
  | .widget => (WidgetKind.ofDatum kind).map .widget
  | .screen => (ScreenKind.ofDatum kind).map .screen
  | .transport => .ok .transport

/-- A file belongs to the component that it was asked of. -/
theorem component_ofKind {c : Component} {kind : Datum} {a : Artifact}
    (h : ofKind c kind = .ok a) : a.component = c := by
  cases c with
  | model | service | transport =>
    obtain rfl : _ = a := Except.ok.inj h
    rfl
  | widget =>
    cases hk : WidgetKind.ofDatum kind with
    | error fault => simp [ofKind, hk, Except.map] at h
    | ok k =>
      simp only [ofKind, hk, Except.map, Except.ok.injEq] at h
      subst h
      rfl
  | screen =>
    cases hk : ScreenKind.ofDatum kind with
    | error fault => simp [ofKind, hk, Except.map] at h
    | ok k =>
      simp only [ofKind, hk, Except.map, Except.ok.injEq] at h
      subst h
      rfl

/-- The kind of file that options ask for. -/
def kindIn (options : Datum) : Component → Except Misuse Datum
  | .widget => eitherOption "widget_type" "type" options "form"
  | .screen => eitherOption "screen_type" "type" options "list"
  | .model | .service | .transport => .ok .null

/-- The file of a component that options ask for. -/
def ofOptions (c : Component) (options : Datum) : Except Fault Artifact := do
  ofKind c (← (kindIn options c : Except Misuse Datum))

/-- Options lead to a file of the component they are for. -/
theorem component_ofOptions {c : Component} {options : Datum} {a : Artifact}
    (h : ofOptions c options = .ok a) : a.component = c := by
  cases hk : kindIn options c with
  | error misuse => rw [ofOptions, hk] at h; cases h
  | ok kind =>
    rw [ofOptions, hk] at h
    exact component_ofKind h

/-- The name that the path of a file is made from. -/
def outputName (m : Model) : Artifact → String
  | .dataClass | .service => m.className
  | .widget kind => widgetStem m kind
  | .screen kind => screenStem m kind
  | .transport => "api_service"

/-- The path of a file. -/
def path (o : OutputSettings) (m : Model) (a : Artifact) : Except Misuse Path :=
  a.component.path o (a.outputName m)

/-- The path of the transport. -/
def transportPath (o : OutputSettings) : Except Misuse Path :=
  Component.path o .transport "api_service"

/-- The name of a file's template without its ending. -/
def templateStem : Artifact → String
  | .dataClass => "model"
  | .service => "service"
  | .widget kind => "widget_" ++ kind.name
  | .screen kind => "screen_" ++ kind.name
  | .transport => "api_service"

/-- What the template of a file is filled with. -/
def scope (c : Context) (m : Model) : Artifact → Except Misuse Template.Scope
  | .dataClass => .ok [("model", (Dart.dataClass c m).value)]
  | .service => .ok [("service", (Dart.service c m).value)]
  | .widget kind => .ok [("widget", (Dart.widget c m kind).value)]
  | .screen kind => .ok [("screen", (Dart.screen c m kind).value)]
  | .transport => do return [("api", (← Dart.transport c).value)]

/-- What is odd about a model for a file. -/
def warnings (c : Context) (m : Model) : Artifact → Except Misuse (List String)
  | .dataClass => Context.problems m
  | .service => .ok (serviceWarnings m)
  | .screen kind => .ok (screenWarnings c m kind)
  | .widget _ | .transport => .ok []

/-- What is odd about a model for what fills the template of a file.  The data class shows it only
when its file is generated. -/
def scopeWarnings (c : Context) (m : Model) : Artifact → Except Misuse (List String)
  | .dataClass => .ok []
  | a => a.warnings c m

end Artifact

end DartScaffold.Dart
