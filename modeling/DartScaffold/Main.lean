/-
**The program.**

The program looks at the files below the current directory and at those named on the command line,
carries out what the command line asks for, and writes the files that have changed.  What is
printed goes to standard output, what is logged to standard error.  Whenever the run puts a
question, whoever runs the program answers it, and the run is gone through again with one more
answer.

Main definitions:

* `Program.contentsAt` — the files at a path;
* `Program.converse` — a run whose questions are answered one by one;
* `main` — the program.
-/

import DartScaffold.Command.Execution
import DartScaffold.Command.PlainText

set_option relaxedAutoImplicit false
set_option autoImplicit false

namespace DartScaffold.Program

open Command (Invocation Options Stop Surroundings)

/-! ### Files -/

/-- What a file holds: a text, if its bytes are one. -/
def contentOf (raw : ByteArray) : FileTree.Content :=
  match String.fromUTF8? raw with
  | some s => .text s
  | none => .bytes raw.toList

/-- The file at a path; one that cannot be read is passed over. -/
def fileAt (path : String) : IO (List (String × Option FileTree.Content)) := do
  try return [(path, some (contentOf (← IO.FS.readBinFile path)))]
  catch _ => return []

/-- The files and directories at a path, down to a depth.  Names that begin with a dot are passed
over. -/
def contentsAt : (depth : Nat) → (path : String) → IO (List (String × Option FileTree.Content))
  | 0, _ => return []
  | depth + 1, path => do
    let place := (← IO.currentDir) / path
    if ← place.isDir then
      let inner ← (← place.readDir).toList.mapM fun entry =>
        if entry.fileName.startsWith "." then return []
        else contentsAt depth (path ++ "/" ++ entry.fileName)
      return (path, none) :: inner.flatten
    else if ← place.pathExists then fileAt path
    else return []

/-- How deep directories are looked into. -/
def maxDepth : Nat := 24

/-- The files below the current directory, and those that the options name. -/
def snapshot (options : Option Options) : IO FileTree := do
  let here := (Path.ofString (← IO.currentDir).toString).names
  let given := (options.map fun o => [o.manifest, o.settingsFile]).getD []
  let named := given.filterMap Command.Value.nonempty?
  let below ← contentsAt maxDepth "."
  let others ← named.mapM (contentsAt 1)
  return (FileTree.emptyAt here).placeAll (below ++ others.flatten)

/-- The path of a location. -/
def pathOf (at_ : FileTree.Location) : String := "/" ++ Text.join "/" at_

/-- What is new or different in a tree. -/
def changes (before after : FileTree) : Entries FileTree.Location FileTree.Node :=
  after.nodes.filter fun (at_, node) => before.node? at_ != some node

/-- The files that are there but were not looked at before a run wrote to them. -/
def overlooked (before after : FileTree) : IO (List (String × Option FileTree.Content)) := do
  let found ← (changes before after).mapM fun (at_, node) =>
    match before.node? at_, node with
    | none, .file _ => contentsAt 1 (pathOf at_)
    | _, _ => return []
  return found.flatten

/-- Writes what has changed. -/
def save (before after : FileTree) : IO Unit :=
  (changes before after).forM fun (at_, node) =>
    match node with
    | .directory => IO.FS.createDirAll (pathOf at_)
    | .file (.text s) => IO.FS.writeFile (pathOf at_) s
    | .file (.bytes raw) => IO.FS.writeBinFile (pathOf at_) ⟨raw.toArray⟩

/-! ### Questions -/

/-- Writes what was printed, as plain text. -/
def display (shown : List Shown) : IO Unit :=
  shown.forM fun
    | .printed what => (Command.plainLines what).forM IO.println
    | .asked _ => return ()

/-- The question after the first `n`, and what was shown before it. -/
def questionAfter? (n : Nat) : List Shown → Option (List Shown × String)
  | [] => none
  | .printed what :: rest =>
    (questionAfter? n rest).map fun (before, question) => (.printed what :: before, question)
  | .asked question :: rest =>
    match n with
    | 0 => some ([], question)
    | n + 1 =>
      (questionAfter? n rest).map fun (before, next) => (.asked question :: before, next)

/-- Puts a question until it is answered with yes or no.  An empty answer is a no. -/
partial def confirm (question : String) : IO Bool := do
  IO.print (question ++ " [y/n] (n): ")
  (← IO.getStdout).flush
  let line ← (← IO.getStdin).getLine
  match Text.lower (Text.strip line) with
  | "y" => return true
  | "n" => return false
  | "" => return false
  | _ => confirm question

/-- A run whose questions are answered one by one. -/
partial def converse (run : Run Nat) (tree : FileTree) (answers : List Bool) (seen : Nat) :
    IO (Except Fault Nat × FileTree × Session) := do
  let (result, session) := run.run (Session.start tree answers Web.unreachable)
  match questionAfter? answers.length session.shown with
  | some (before, question) => do
    display (before.drop seen)
    converse run tree (answers ++ [← confirm question]) (before.length + 1)
  | none =>
    match ← overlooked tree session.tree with
    | [] => do
      display (session.shown.drop seen)
      return (result, tree, session)
    | more => converse run (tree.placeAll more) answers seen

/-! ### Command lines -/

/-- Carries out what a command line asks for. -/
def perform (invocation : Invocation) : IO UInt32 := do
  let address ← IO.getEnv Settings.addressVariable
  let tree ← snapshot (invocation.task.map Prod.snd)
  let around : Surroundings := ⟨.ofText? address, .none, .strict⟩
  let (result, before, session) ← converse (invocation.run around) tree [] 0
  session.log.forM fun entry => IO.eprintln entry.line
  save before session.tree
  match result with
  | .ok code => return UInt32.ofNat code
  | .error fault => do
    IO.eprintln fault.message
    return 1

/-- Writes why reading the command line ended early. -/
def stop (s : Stop) : IO UInt32 := do
  s.lines.forM fun line => if s.exitCode = 0 then IO.println line else IO.eprintln line
  return UInt32.ofNat s.exitCode

end DartScaffold.Program

open DartScaffold in
/-- The program. -/
def main (args : List String) : IO UInt32 :=
  match Command.Invocation.ofWords args with
  | .error s => Program.stop s
  | .ok ⟨_, none⟩ => do
    (Command.helpLines Command.program).forM IO.println
    return 1
  | .ok invocation => Program.perform invocation
