/-
**The name of a class counts by its words only.**

The name of a model goes into its files in many ways: as the name of a class, of files, of
variables, of a collection's path, and in titles and comments.  All of these are made from the words
of the name.  So models that are named `BlogPost`, `blog_post` and `Blog-Post` and are otherwise
equal have the same files, at the same paths.  On the other hand the words can be read off the path
of a file, as they stand in it with low lines between them; so names with different words never
share a path.

A generator answers from its memory, and it has been asked for another name when it generates the
other file.  But the name of a class is remembered under a text of its own, which no field has, and
it is always made from the words.

Main definitions:

* `Dart.Respelled` — models that differ only in how the words of their name are set apart.

Main results:

* `Dart.Respelled.scope_eq` — in one context templates are filled alike;
* `Dart.Respelled.agrees` — generators that learn the names of either model agree;
* `Dart.Component.words_eq_of_path` — the path of a file tells the words;
* `Dart.Respelled.generate_eq` — **the same texts at the same paths**, and different paths for
  different words.
-/

import Mathlib
import DartScaffold.Proofs.Generation.AskedNames
import DartScaffold.Proofs.Generation.PlannedPaths
import DartScaffold.Proofs.Naming.Memory

set_option relaxedAutoImplicit false
set_option autoImplicit false

namespace DartScaffold.Dart

open Naming (Names Request)

/-! ### Forms of a name -/

section Forms

variable {name name' : String}

theorem snake_eq_of_words (h : Naming.words name' = Naming.words name) :
    Naming.snake name' = Naming.snake name := by
  unfold Naming.snake
  rw [h]

theorem pascal_eq_of_words (h : Naming.words name' = Naming.words name) :
    Naming.pascal name' = Naming.pascal name := by
  unfold Naming.pascal
  rw [h]

theorem title_eq_of_words (h : Naming.words name' = Naming.words name) :
    Naming.title name' = Naming.title name := by
  unfold Naming.title
  rw [h]

end Forms

/-- Models that differ only in how the words of their name are set apart. -/
structure Respelled (m m' : Model) : Prop where
  words : Naming.words m'.className = Naming.words m.className
  rest : m' = { m with className := m'.className }

namespace Respelled

variable {m m' : Model} {c : Context}

/-! ### What is made from the name -/

theorem modelStem_eq (h : Respelled m m') : modelStem m'.className = modelStem m.className :=
  snake_eq_of_words h.words

theorem typeName_eq (h : Respelled m m') (hc : Learned c.names) : c.typeName m' = c.typeName m := by
  unfold Context.typeName
  rw [type_eq_fresh hc, type_eq_fresh hc]
  unfold Naming.Sanitizer.fresh Naming.Case.form
  dsimp only
  rw [pascal_eq_of_words h.words]

theorem endpoint_eq (h : Respelled m m') : Context.endpoint m' = Context.endpoint m := by
  unfold Context.endpoint
  rw [snake_eq_of_words h.words]

theorem title_eq (h : Respelled m m') (kind : ScreenKind) : kind.title m' = kind.title m := by
  unfold ScreenKind.title
  rw [snake_eq_of_words h.words, title_eq_of_words h.words]

theorem widgetStem_eq (h : Respelled m m') (kind : WidgetKind) :
    widgetStem m' kind = widgetStem m kind := by
  unfold widgetStem
  rw [h.modelStem_eq]

theorem screenStem_eq (h : Respelled m m') (kind : ScreenKind) :
    screenStem m' kind = screenStem m kind := by
  unfold screenStem
  rw [h.modelStem_eq]

theorem modelImport_eq (h : Respelled m m') (o : OutputSettings) (own : Folder) :
    modelImport o own m'.className = modelImport o own m.className := by
  unfold modelImport
  rw [h.modelStem_eq]

theorem serviceImport_eq (h : Respelled m m') (o : OutputSettings) (own : Folder) :
    serviceImport o own m'.className = serviceImport o own m.className := by
  unfold serviceImport
  rw [h.modelStem_eq]

theorem screenImports_eq (h : Respelled m m') (o : OutputSettings) (kind : ScreenKind) :
    screenImports o m' kind = screenImports o m kind := by
  have hstems : screenStem m' = screenStem m := funext h.screenStem_eq
  have hwidgets : widgetStem m' = widgetStem m := funext h.widgetStem_eq
  unfold screenImports
  rw [h.modelImport_eq, h.serviceImport_eq, hstems, hwidgets]

/-! ### What is not made from the name -/

theorem included_eq (h : Respelled m m') (c : Context) : c.included m' = c.included m := by
  rw [h.rest]
  rfl

theorem fields_eq (h : Respelled m m') (c : Context) : fields c m' = fields c m := by
  unfold fields
  rw [h.included_eq]

theorem inputFields_eq (h : Respelled m m') (c : Context) : inputFields c m' = inputFields c m := by
  unfold inputFields
  rw [h.fields_eq]

theorem customRoutes_eq (h : Respelled m m') : m'.customRoutes = m.customRoutes := by
  rw [h.rest]
  rfl

theorem keyField?_eq (h : Respelled m m') (c : Context) : keyField? c m' = keyField? c m := by
  have hkey : m'.primaryKey = m.primaryKey := by rw [h.rest]
  unfold keyField?
  rw [h.fields_eq, hkey]

/-! ### What templates are filled with -/

theorem relatedStems_eq (h : Respelled m m') : relatedStems m' = relatedStems m := by
  have hrelations : m'.relationships = m.relationships := by rw [h.rest]
  unfold relatedStems
  rw [h.modelStem_eq, hrelations]

theorem dataClass_eq (h : Respelled m m') (hc : Learned c.names) :
    dataClass c m' = dataClass c m := by
  have htable : m'.table = m.table := by rw [h.rest]
  unfold dataClass
  rw [h.typeName_eq hc, h.fields_eq, h.relatedStems_eq, h.modelStem_eq, htable]

theorem service_eq (h : Respelled m m') (hc : Learned c.names) : service c m' = service c m := by
  simp only [service, h.typeName_eq hc, h.endpoint_eq, h.modelImport_eq, h.customRoutes_eq]

theorem widget_eq (h : Respelled m m') (hc : Learned c.names) (kind : WidgetKind) :
    widget c m' kind = widget c m kind := by
  simp only [widget, h.typeName_eq hc, h.fields_eq, h.inputFields_eq, h.modelImport_eq,
    h.widgetStem_eq]

theorem screen_eq (h : Respelled m m') (hc : Learned c.names) (kind : ScreenKind) :
    screen c m' kind = screen c m kind := by
  unfold screen
  rw [h.typeName_eq hc, h.keyField?_eq, h.title_eq, title_eq_of_words h.words, h.screenImports_eq,
    h.fields_eq]

/-- **Templates are filled alike.** -/
theorem scope_eq (h : Respelled m m') (hc : Learned c.names) (a : Artifact) :
    a.scope c m' = a.scope c m := by
  cases a with
  | dataClass => rw [Artifact.scope, Artifact.scope, h.dataClass_eq hc]
  | service => rw [Artifact.scope, Artifact.scope, h.service_eq hc]
  | widget kind => rw [Artifact.scope, Artifact.scope, h.widget_eq hc]
  | screen kind => rw [Artifact.scope, Artifact.scope, h.screen_eq hc]
  | transport => rfl

/-- Warnings name the class, but whether they can be told does not depend on its name. -/
theorem warnings_eq_error_iff (h : Respelled m m') (a : Artifact) (f : Misuse) :
    a.warnings c m' = .error f ↔ a.warnings c m = .error f := by
  cases a with
  | dataClass =>
      show Context.problems m' = .error f ↔ Context.problems m = .error f
      rw [h.rest]
      unfold Context.problems
      dsimp only
      cases Datum.ordered (Datum.distinct (m.fillable ++ m.hidden ++ Entries.keys m.casts)) with
      | error g => exact Iff.rfl
      | ok declared => exact ⟨nofun, nofun⟩
  | service | widget kind | screen kind | transport => exact ⟨nofun, nofun⟩

/-! ### The memory of a generator -/

/-- Memories that answer alike for fields do so after asking for another field. -/
theorem field_foldl_eq {n n' : Names} (h : ∀ d, n'.field d = n.field d) (fields : List Datum)
    (d : Datum) :
    ((fields.map Request.field).foldl Names.remember n').field d =
      ((fields.map Request.field).foldl Names.remember n).field d := by
  induction fields generalizing n n' with
  | nil => exact h d
  | cons e rest ih =>
      refine ih fun d => ?_
      show (n'.remember (.field e)).name (.field d) = (n.remember (.field e)).name (.field d)
      by_cases hk : (Request.field d).key = (Request.field e).key
      · rw [name_remember_of_eq hk, name_remember_of_eq hk]
        exact h e
      · rw [name_remember_of_ne hk, name_remember_of_ne hk]
        exact h d

/-- A model asks for the name of its class and for the names of fields. -/
theorem nameRequests_eq (c : Context) (m : Model) :
    ∃ fields : List Datum, ∀ m', Respelled m m' → nameRequests c m' =
      ⟨m'.className, m'.className, .pascal, "Model"⟩ :: fields.map Request.field := by
  refine ⟨(c.included m).map Attribute.name ++ (m.customRoutes.flatMap fun r =>
    r.endpoint.tag :: (r.parameters.map PathParameter.name ++
      Routing.placeholders (innerPath r.uri))).map .text, fun m' h => ?_⟩
  unfold nameRequests
  rw [h.included_eq, h.customRoutes_eq, List.map_append, List.map_map, List.map_map]
  rfl

theorem refl (m : Model) : Respelled m m := ⟨rfl, rfl⟩

/-- A generator that has learnt the names of one of the models answers whatever the other one asks
for. -/
theorem agrees (h : Respelled m m') {g : Generator} (hg : Learned g.names) :
    Agrees m (g.learn m).context (g.learn m').context := by
  obtain ⟨fields, hfields⟩ := nameRequests_eq g.context m
  have hlearn : (g.learn m).names = (fields.map Request.field).foldl Names.remember
      (g.names.remember ⟨m.className, m.className, .pascal, "Model"⟩) := by
    unfold Generator.learn
    rw [hfields m (.refl m), List.foldl_cons]
  have hlearn' : (g.learn m').names = (fields.map Request.field).foldl Names.remember
      (g.names.remember ⟨m'.className, m'.className, .pascal, "Model"⟩) := by
    unfold Generator.learn
    rw [hfields m' h, List.foldl_cons]
  -- The name of the class has no key of a field.
  have hfield : ∀ d, (g.learn m').names.field d = (g.learn m).names.field d := by
    intro d
    rw [hlearn, hlearn']
    refine field_foldl_eq (fun e => ?_) fields d
    unfold Names.field
    rw [name_remember_of_ne (key_field_ne_key_type e _),
      name_remember_of_ne (key_field_ne_key_type e _)]
  refine ⟨rfl, fun r hr => ?_⟩
  rcases mem_nameRequests hr with ⟨d, rfl⟩ | ⟨s, rfl⟩
  · exact hfield d
  · have htype : (g.learn m').names.type s = (g.learn m).names.type s := by
      rw [type_eq_fresh (learned_learn hg m'), type_eq_fresh (learned_learn hg m)]
    exact htype

/-! ### Texts and paths -/

/-- The same text is generated for both models. -/
theorem text_eq (h : Respelled m m') {g : Generator} (hg : Learned g.names) (tree : FileTree)
    (a : Artifact) : (g.generateFile tree m' a).text = (g.generateFile tree m a).text := by
  have hscope : a.scope (g.learn m').context m' = a.scope (g.learn m).context m :=
    calc a.scope (g.learn m').context m'
        = a.scope (g.learn m').context m := h.scope_eq (learned_learn hg m') a
      _ = a.scope (g.learn m).context m := (h.agrees hg).scope a
  unfold Generator.generateFile
  -- The warnings differ; what counts is that they can be told of both models or of neither.
  cases hw : a.warnings g.context m with
  | error f =>
      rw [(h.warnings_eq_error_iff a f).2 hw]
  | ok warnings =>
      cases hw' : a.warnings g.context m' with
      | error f =>
          rw [(h.warnings_eq_error_iff a f).1 hw'] at hw
          cases hw
      | ok warnings' =>
          dsimp only
          rw [hscope]
          cases a.scope (g.learn m).context m with
          | error f => rfl
          | ok scope => rfl

/-- The file of both models is called the same. -/
theorem path_eq (h : Respelled m m') (o : OutputSettings) (a : Artifact) :
    a.path o m' = a.path o m := by
  have hfile : ∀ folder ending, filePath o folder m'.className ending =
      filePath o folder m.className ending := by
    intro folder ending
    unfold filePath fileName
    rw [snake_eq_of_words h.words]
  cases a with
  | dataClass => exact hfile .models ""
  | service => exact hfile .services "_service"
  | widget kind =>
      show filePath o .widgets (widgetStem m' kind) "" = filePath o .widgets (widgetStem m kind) ""
      rw [h.widgetStem_eq]
  | screen kind =>
      show filePath o .screens (screenStem m' kind) "" = filePath o .screens (screenStem m kind) ""
      rw [h.screenStem_eq]
  | transport => rfl

end Respelled

/-- **The path of a file tells the words of the name** that it was asked for by. -/
theorem Component.words_eq_of_path {o : OutputSettings} {component : Component}
    {name name' : String} {p p' : Path} (hp : component.path o name = .ok p)
    (hp' : component.path o name' = .ok p') (h : p.text = p'.text) :
    Naming.words name = Naming.words name' := by
  have hending : '/' ∉ component.ending.toList := by cases component <;> decide
  obtain ⟨hread, hlast⟩ := filePath_eq_ok hending hp
  obtain ⟨hread', hlast'⟩ := filePath_eq_ok hending hp'
  have hfile : fileName name component.ending = fileName name' component.ending := by
    rw [(Path.text_inj hread hread').1 h, hlast'] at hlast
    exact (Option.some.inj hlast).symm
  have hsnake : Naming.snake name = Naming.snake name' := by
    unfold fileName at hfile
    exact (String.append_left_inj _).1 ((String.append_left_inj _).1 hfile)
  exact Naming.snake_inj.1 hsnake

/-- **Generated files depend on the name of a class only through its words.**  For models that are
equal up to the spelling of their name a generator gives the same text, for whatever file and by
whatever options, and the file has the same path; and names that a generator gives one path have the
same words. -/
theorem Respelled.generate_eq {g : Generator} (hg : Learned g.names) {m m' : Model}
    (h : Respelled m m') :
    (∀ (tree : FileTree) (a : Artifact),
      (g.generateFile tree m' a).text = (g.generateFile tree m a).text) ∧
    (∀ (tree : FileTree) (options : Datum),
      (g.generate tree m' options).text = (g.generate tree m options).text) ∧
    (∀ a : Artifact, a.path g.settings.output m' = a.path g.settings.output m) ∧
    ∀ (o : OutputSettings) (component : Component) (name name' : String) (p p' : Path),
      component.path o name = .ok p → component.path o name' = .ok p' → p.text = p'.text →
        Naming.words name = Naming.words name' := by
  refine ⟨h.text_eq hg, fun tree options => ?_, h.path_eq g.settings.output,
    fun o component name name' p p' hp hp' => Component.words_eq_of_path hp hp'⟩
  unfold Generator.generate
  cases Artifact.ofOptions g.component options with
  | error f => rfl
  | ok a => exact h.text_eq hg tree a

/-- A generator that has generated the list of one spelling, and the other spelling. -/
theorem Respelled.generate_eq_blogPost :
    let named (name : String) : Model :=
      { (default : Model) with
        className := name, qualifiedName := "app.BlogPost", table := .text "blog_posts" }
    let first : Generator := ⟨.widget, .standard, sanitizer.names, ⟨[], [], builtin, []⟩⟩
    let g := (first.generate .empty (named "BlogPost") (.object [("type", .text "list")])).next
    Learned g.names ∧ Respelled (named "BlogPost") (named "Blog-Post") ∧
      ((∀ (tree : FileTree) (a : Artifact),
          (g.generateFile tree (named "Blog-Post") a).text =
            (g.generateFile tree (named "BlogPost") a).text) ∧
        (∀ (tree : FileTree) (options : Datum),
          (g.generate tree (named "Blog-Post") options).text =
            (g.generate tree (named "BlogPost") options).text) ∧
        (∀ a : Artifact, a.path g.settings.output (named "Blog-Post") =
          a.path g.settings.output (named "BlogPost")) ∧
        ∀ (o : OutputSettings) (component : Component) (name name' : String) (p p' : Path),
          component.path o name = .ok p → component.path o name' = .ok p' → p.text = p'.text →
            Naming.words name = Naming.words name') := by
  intro named first g
  have hlearned : Learned g.names := learned_generate .new .empty _ _
  have hspelling : Respelled (named "BlogPost") (named "Blog-Post") := ⟨by decide, rfl⟩
  exact ⟨hlearned, hspelling, Respelled.generate_eq hlearned hspelling⟩

end DartScaffold.Dart
