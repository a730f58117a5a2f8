/-
**Generators.**

A generator writes the files of one component.  It has the settings of the run, the names that it
gave before, and the library of its templates; the last two grow with every file, so generating a
file also gives the generator for the next one.

Main definitions:

* `Dart.Generator`, `Dart.Generator.make` — a generator;
* `Dart.Generated`, `Dart.Generator.generate` — what generating a file gives;
* `Dart.Specified`, `Dart.Generator.specify` — what fills the template of a file, without the file.
-/

import DartScaffold.Dart.Artifact
import DartScaffold.Dart.Builtin
import DartScaffold.Dart.Keyword
import DartScaffold.Template.Library

set_option relaxedAutoImplicit false
set_option autoImplicit false

namespace DartScaffold.Dart

/-- A generator of the files of one component. -/
structure Generator where
  component : Component
  settings : Settings
  names : Naming.Names
  library : Template.Library
deriving Repr, Inhabited

/-- What generating a file gives: the text, what is odd about the model, and the generator for the
next file. -/
structure Generated where
  text : Except Fault String
  warnings : List String
  next : Generator

/-- What specifying a file gives: what its template is filled with, what is odd about the model, and
the generator for the next file. -/
structure Specified where
  scope : Except Fault Template.Scope
  warnings : List String
  next : Generator

/-- The names that are asked for when a file of a model is generated. -/
def nameRequests (c : Context) (m : Model) : List Naming.Request :=
  ⟨m.className, m.className, .pascal, "Model"⟩ ::
    ((c.included m).map fun a => .field a.name) ++
    (m.customRoutes.flatMap fun r =>
      r.endpoint.tag :: (r.parameters.map PathParameter.name ++
        Routing.placeholders (innerPath r.uri))).map fun s => .field (.text s)

namespace Generator

/-- What a generator's files are generated from besides their models. -/
def context (g : Generator) : Context := ⟨g.settings, g.names⟩

/-- The directories of templates that replace the built-in ones. -/
def overrides (t : TemplateSettings) : Except Misuse (List Path) :=
  if t.path.truthy then
    match t.path with
    | .text s => .ok [Path.ofString s]
    | d => .error (.notPath d.kindName)
  else .ok []

/-- A new generator. -/
def make (component : Component) (settings : Settings) : Run Generator := do
  let directories ← (overrides settings.templates : Except Misuse _)
  let library ← Template.Library.make directories none builtin
  return ⟨component, settings, sanitizer.names, library⟩

/-- The name of a file's template. -/
def templateName (g : Generator) (stem : String) : String := stem ++ g.settings.templates.extension

/-- The generator with the names that a model asks for. -/
def learn (g : Generator) (m : Model) : Generator :=
  { g with names := (nameRequests g.context m).foldl Naming.Names.remember g.names }

/-- Generates a file of a model. -/
def generateFile (g : Generator) (tree : FileTree) (m : Model) (a : Artifact) : Generated :=
  match a.warnings g.context m with
  | .error f => ⟨.error (.misuse f), [], g⟩
  | .ok warnings =>
    let g := g.learn m
    match a.scope g.context m with
    | .error f => ⟨.error (.misuse f), warnings, g⟩
    | .ok scope =>
      let (text, library) := g.library.fill tree (g.templateName a.templateStem) scope
      ⟨text.map tidy, warnings, { g with library := library }⟩

/-- Generates the file of a model that options ask for. -/
def generate (g : Generator) (tree : FileTree) (m : Model) (options : Datum) : Generated :=
  match Artifact.ofOptions g.component options with
  | .error f => ⟨.error f, [], g⟩
  | .ok a => g.generateFile tree m a

/-- Tells what the template of a file is filled with, for a file of a kind. -/
def specify (g : Generator) (m : Model) (kind : Datum) : Specified :=
  match Artifact.ofKind g.component kind with
  | .error f => ⟨.error f, [], g⟩
  | .ok a =>
    let g := g.learn m
    match a.scopeWarnings g.context m with
    | .error f => ⟨.error (.misuse f), [], g⟩
    | .ok warnings => ⟨(a.scope g.context m).mapError .misuse, warnings, g⟩

end Generator

end DartScaffold.Dart
