/-
**Where templates are found.**

A template is known under a name.  It is looked for among the templates held in memory, then in
directories, in order, and last among the built-in ones.  A template that was found once is kept,
and it is taken again as long as the place that it was found at still holds the same text, even
when an earlier place has come to hold another one.

Main definitions:

* `Template.Library` — the places, and the templates that are kept;
* `Template.Library.make` — a library of directories;
* `Template.Library.find`, `Template.Library.knows` — the template of a name, and whether there
  is one;
* `Template.Library.fill` — the text of the template of a name.
-/

import DartScaffold.Session
import DartScaffold.Template.Reader
import DartScaffold.Template.Render

set_option relaxedAutoImplicit false
set_option autoImplicit false

namespace DartScaffold.Template

/-! ### The places -/

/-- Where a template was found, and what was written there. -/
inductive Origin where
  | memory (content : String)
  | file (path : Path) (content : FileTree.Content)
  | builtin
deriving DecidableEq, Repr

/-- The places that templates are looked for at, and the templates that are kept. -/
structure Library where
  memory : Entries String String
  directories : List Path
  builtin : Entries String Template
  kept : Entries String (Origin × Template)
deriving Repr, Inhabited

/-- Why a template is not found. -/
inductive FindFault where
  | missing
  | flawed (flaw : Flaw)
  | undecodable (fault : Text.Utf8.Fault)
deriving Repr

/-- A fault of filling a template; `failed` is given its wording. -/
def RenderFault.toFault (failed : String → TemplateFault) : RenderFault → Fault
  | .template reason => .template (failed reason)
  | .misuse f => .misuse f

/-- A flaw of a template that was to be filled, as a fault; `failed` is given its wording. -/
def Flaw.toFault (failed : String → TemplateFault) : Flaw → Fault
  | .form reason | .senseless reason => .template (failed reason)
  | .misuse f => .misuse f

/-- A flaw of a template that was only looked for, as a fault. -/
def Flaw.lonely : Flaw → Fault
  | .form reason => .template (.malformed reason)
  | .senseless reason => .template (.senseless reason)
  | .misuse f => .misuse f

/-- Why a template is not found, as a fault of filling it. -/
def FindFault.toFault (name : String) : FindFault → Fault
  | .missing => .template (.missing name)
  | .flawed flaw => flaw.toFault (.failed name)
  | .undecodable f => .undecodable f

namespace Library

/-- The parts of a name that is looked for in directories; none, if it leads out of them. -/
def nameParts? (name : String) : Option (List String) :=
  let parts := Text.split '/' name
  if parts.contains ".." then none
  else some (parts.filter fun p => p != "" && p != ".")

/-- The file in the first of the directories that has one of the name. -/
def file? (tree : FileTree) (parts : List String) : List Path → Option (Path × FileTree.Content)
  | [] => none
  | d :: rest =>
    let p := d.join ⟨"", parts⟩
    if tree.isFile p then
      match tree.read p with
      | .ok content => some (p, content)
      | .error _ => file? tree parts rest
    else file? tree parts rest

/-- The place where a name is found. -/
def origin? (l : Library) (tree : FileTree) (name : String) : Option Origin :=
  match l.memory.lookup name with
  | some content => some (.memory content)
  | none => do
    let parts ← nameParts? name
    match file? tree parts l.directories with
    | some (p, content) => some (.file p content)
    | none => (l.builtin.lookup (Text.join "/" parts)).map fun _ => .builtin

/-- The template that is written at a place. -/
def templateAt (l : Library) (name : String) : Origin → Except FindFault Template
  | .memory content => (ofText (some name) content).mapError .flawed
  | .file _ content =>
    match content.lineText with
    | .ok s => (ofText (some name) s).mapError .flawed
    | .error f => .error (.undecodable f)
  | .builtin =>
    match (nameParts? name).bind fun parts => l.builtin.lookup (Text.join "/" parts) with
    | some t => .ok t
    | none => .error .missing

/-- Whether a place still holds what it held. -/
def isCurrent (l : Library) (tree : FileTree) (name : String) : Origin → Bool
  | .memory content => l.memory.lookup name == some content
  | .file p content =>
    match tree.read p with
    | .ok now => now == content
    | .error _ => false
  | .builtin => true

/-! ### Finding and filling -/

/-- The template of a name, and the library that keeps it. -/
def find (l : Library) (tree : FileTree) (name : String) : Except FindFault (Template × Library) :=
  match (l.kept.lookup name).filter fun (o, _) => l.isCurrent tree name o with
  | some (_, t) => .ok (t, l)
  | none =>
    match l.origin? tree name with
    | none => .error .missing
    | some o => do
      let t ← l.templateAt name o
      return (t, { l with kept := l.kept.put name (o, t) })

/-- Whether there is a template of a name, and the library that keeps it. -/
def knows (l : Library) (tree : FileTree) (name : String) : Except Fault Bool × Library :=
  match l.find tree name with
  | .ok (_, l) => (.ok true, l)
  | .error .missing => (.ok false, l)
  | .error (.flawed flaw) => (.error flaw.lonely, l)
  | .error (.undecodable f) => (.error (.undecodable f), l)

/-- The library with a template put into memory. -/
def add (l : Library) (name content : String) : Library :=
  { l with memory := l.memory.put name content }

/-- The text of a template in a scope.  The name `self` stands for the template, so no value can be
given by it. -/
def textOf (templateName : Option String) (t : Template) (scope : Scope) :
    Except RenderFault String :=
  let shown := "<TemplateReference " ++ ((templateName.map Text.quoted).getD "None") ++ ">"
  match scope.lookup "self" with
  | some _ => .error (.misuse (.unfit "multiple values for argument 'self'"))
  | none => render (scope.put "self" (.record "jinja2.runtime.TemplateReference" shown [] [])) t

/-- The text of the template of a name in a scope, and the library that keeps the template. -/
def fill (l : Library) (tree : FileTree) (name : String) (scope : Scope) :
    Except Fault String × Library :=
  match l.find tree name with
  | .error f => (.error (f.toFault name), l)
  | .ok (t, l) => ((textOf (some name) t scope).mapError (RenderFault.toFault (.failed name)), l)

/-- The text of a template that is given as a text. -/
def fillText (s : String) (scope : Scope) : Except Fault String :=
  match ofText none s with
  | .error flaw => .error (flaw.toFault .failedText)
  | .ok t => (textOf none t scope).mapError (RenderFault.toFault .failedText)

/-! ### Making a library -/

/-- The directories that are there; a warning is logged for any other. -/
def presentDirectories : List Path → Run (List Path)
  | [] => return []
  | p :: rest => do
    let there ← ((← Run.tree).isDirectory p : Except FileError Bool)
    if !there then Run.warn ("Template override directory not found: " ++ p.text)
    let more ← presentDirectories rest
    return if there then p :: more else more

/-- A library of directories that replace the templates of a base directory, if there is one, and
the built-in templates.  Only a missing replacement is worth a warning. -/
def make (overrides : List Path) (base : Option Path) (builtin : Entries String Template) :
    Run Library := do
  let present ← presentDirectories overrides
  let tree ← Run.tree
  let last ←
    match base with
    | none => pure []
    | some p => do
      if ← (tree.pathExists p : Except FileError Bool) then pure [p] else pure []
  return ⟨[], present ++ last, builtin, []⟩

end Library

end DartScaffold.Template
