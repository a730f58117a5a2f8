/-
**A tree of files and directories.**

Templates, configurations and manifests are read from files, and generated code is written to
them.  The tree holds regular files and directories; a path is followed name by name from the
current directory or from the outermost one, and a double dot goes to the directory above the one
reached.  A step fails when there is nothing at a name, when something is no directory, or when a
name is too long.

Main definitions:

* `FileTree`, `FileTree.Node`, `FileTree.Content` — the tree and what it holds;
* `FileTree.locate` — following a path;
* `FileTree.pathExists`, `FileTree.isDirectory`, `FileTree.isFile` — what a path leads to;
* `FileTree.read`, `FileTree.write`, `FileTree.remove`, `FileTree.makeDirectory`,
  `FileTree.makeDirectories` — the operations;
* `FileTree.ofContents`, `FileTree.files` — a tree from its files, and all files below the current
  directory.
-/

import DartScaffold.Datum.Display
import DartScaffold.Entries
import DartScaffold.Path
import DartScaffold.Text.Utf8

set_option relaxedAutoImplicit false
set_option autoImplicit false

namespace DartScaffold

/-! ### Faults -/

/-- Why an operation on files fails. -/
inductive FileFault where
  | missing
  | alreadyThere
  | notDirectory
  | isDirectory
  | nameTooLong
  | nullCharacter
deriving DecidableEq, Repr

/-- A failed operation: its cause and the path as it was given. -/
structure FileError where
  fault : FileFault
  path : String
deriving DecidableEq, Repr

/-- The wording of a failed operation. -/
def FileError.message (e : FileError) : String :=
  match e.fault with
  | .missing => "[Errno 2] No such file or directory: " ++ Text.quoted e.path
  | .alreadyThere => "[Errno 17] File exists: " ++ Text.quoted e.path
  | .notDirectory => "[Errno 20] Not a directory: " ++ Text.quoted e.path
  | .isDirectory => "[Errno 21] Is a directory: " ++ Text.quoted e.path
  | .nameTooLong => "[Errno 36] File name too long: " ++ Text.quoted e.path
  | .nullCharacter => "embedded null byte"

namespace FileTree

/-- What a file holds: a text, or bytes that may be none. -/
inductive Content where
  | text (s : String)
  | bytes (raw : List UInt8)
deriving DecidableEq, Repr

/-- A file or a directory. -/
inductive Node where
  | directory
  | file (content : Content)
deriving DecidableEq, Repr

/-- The place of a file or directory: the names from the outermost directory on. -/
abbrev Location := List String

end FileTree

/-- A tree of files.  Every location but the outermost one is listed with what is there. -/
structure FileTree where
  /-- The current directory. -/
  here : FileTree.Location
  nodes : Entries FileTree.Location FileTree.Node
deriving DecidableEq, Repr

namespace FileTree

/-- A tree that holds an empty current directory and the directories around it. -/
def emptyAt (here : Location) : FileTree :=
  ⟨here, (List.range here.length).map fun n => (here.take (n + 1), .directory)⟩

/-- A tree that holds an empty current directory in the outermost one. -/
def empty : FileTree := emptyAt ["work"]

/-- What is at a location. -/
def node? (tree : FileTree) (at_ : Location) : Option Node :=
  if at_ = [] then some .directory else tree.nodes.lookup at_

/-- The tree with a file or directory put at a location. -/
def setNode (tree : FileTree) (at_ : Location) (node : Node) : FileTree :=
  { tree with nodes := tree.nodes.put at_ node }

/-! ### Following a path -/

/-- The location that names lead to from a location.  Each name is looked up in an existing
directory; what it leads to need not exist. -/
def follow (tree : FileTree) : Location → List String → Except FileFault Location
  | at_, [] => .ok at_
  | at_, name :: rest =>
    match tree.node? at_ with
    | none => .error .missing
    | some (.file _) => .error .notDirectory
    | some .directory =>
      if 255 < name.utf8ByteSize then .error .nameTooLong
      else follow tree (if name = ".." then at_.dropLast else at_ ++ [name]) rest

/-- The location that a path leads to; what is there need not exist. -/
def locate (tree : FileTree) (p : Path) : Except FileFault Location :=
  if p.text.toList.contains '\x00' then .error .nullCharacter
  else if 4096 ≤ p.text.utf8ByteSize then .error .nameTooLong
  else follow tree (if p.root = "" then tree.here else []) p.names

/-- What a path leads to. -/
def status (tree : FileTree) (p : Path) : Except FileFault Node := do
  let at_ ← tree.locate p
  match tree.node? at_ with
  | some node => .ok node
  | none => .error .missing

/-- Whether a path leads to something.  Only a name that is too long is no answer. -/
def pathExists (tree : FileTree) (p : Path) : Except FileError Bool :=
  match tree.status p with
  | .ok _ => .ok true
  | .error .nameTooLong => .error ⟨.nameTooLong, p.text⟩
  | .error _ => .ok false

/-- Whether a path leads to a directory.  Only a name that is too long is no answer. -/
def isDirectory (tree : FileTree) (p : Path) : Except FileError Bool :=
  match tree.status p with
  | .ok node => .ok (node == .directory)
  | .error .nameTooLong => .error ⟨.nameTooLong, p.text⟩
  | .error _ => .ok false

/-- Whether a path leads to a file. -/
def isFile (tree : FileTree) (p : Path) : Bool :=
  match tree.status p with
  | .ok (.file _) => true
  | _ => false

/-! ### Reading and writing -/

/-- What the file at a path holds. -/
def read (tree : FileTree) (p : Path) : Except FileError Content :=
  match tree.status p with
  | .ok (.file content) => .ok content
  | .ok .directory => .error ⟨.isDirectory, p.text⟩
  | .error fault => .error ⟨fault, p.text⟩

/-- The location that a file may be written to: its directory exists, and it is no directory. -/
def writable (tree : FileTree) (p : Path) : Except FileFault Location := do
  let at_ ← tree.locate p
  match tree.node? at_.dropLast, tree.node? at_ with
  | _, some .directory => .error .isDirectory
  | _, some (.file _) => .ok at_
  | some .directory, none => .ok at_
  | some (.file _), none => .error .notDirectory
  | none, none => .error .missing

/-- The tree with a text written to the file at a path. -/
def write (tree : FileTree) (p : Path) (s : String) : Except FileError FileTree :=
  match tree.writable p with
  | .ok at_ => .ok (tree.setNode at_ (.file (.text s)))
  | .error fault => .error ⟨fault, p.text⟩

/-- The tree without the file at a path. -/
def remove (tree : FileTree) (p : Path) : Except FileError FileTree :=
  match tree.locate p with
  | .error fault => .error ⟨fault, p.text⟩
  | .ok at_ =>
    match tree.node? at_ with
    | some (.file _) => .ok { tree with nodes := tree.nodes.erase at_ }
    | some .directory => .error ⟨.isDirectory, p.text⟩
    | none => .error ⟨.missing, p.text⟩

/-- The tree with a new directory at a path, in a directory that exists. -/
def makeDirectory (tree : FileTree) (p : Path) : Except FileFault FileTree := do
  let at_ ← tree.locate p
  match tree.node? at_ with
  | some _ => .error .alreadyThere
  | none =>
    match tree.node? at_.dropLast with
    | some .directory => .ok (tree.setNode at_ .directory)
    | some (.file _) => .error .notDirectory
    | none => .error .missing

/-- A directory that is there already is as good as a new one. -/
def acceptExisting (tree : FileTree) (p : Path) (fault : FileFault) : Except FileError Unit :=
  if fault = .missing ∨ fault = .nullCharacter then .error ⟨fault, p.text⟩
  else do
    if ← tree.isDirectory p then .ok () else .error ⟨fault, p.text⟩

/-- The tree with the directory at a path, if it can be made, and whether the directory is there
now. -/
def ensureDirectory (tree : FileTree) (p : Path) : FileTree × Except FileError Unit :=
  match tree.makeDirectory p with
  | .ok made => (made, .ok ())
  | .error fault => (tree, tree.acceptExisting p fault)

/-- Whether a directory cannot be made because the one above it is missing. -/
def lacksParent (tree : FileTree) (p : Path) : Bool :=
  match tree.makeDirectory p with
  | .error .missing => p.parent != p
  | _ => false

/-- The tree with the directory at a path and those on the way to it.  The directory above is made
first when it is missing; the number of names bounds how often.  What was made stays, even if the
rest cannot be. -/
def makeDirectoriesUpTo :
    (bound : Nat) → FileTree → Path → FileTree × Except FileError Unit
  | 0, tree, p => tree.ensureDirectory p
  | bound + 1, tree, p =>
    if tree.lacksParent p then
      match makeDirectoriesUpTo bound tree p.parent with
      | (made, .ok ()) => made.ensureDirectory p
      | failed => failed
    else tree.ensureDirectory p

/-- The tree with the directory at a path and those on the way to it, as far as they can be made,
and whether the directory is there now. -/
def makeDirectories (tree : FileTree) (p : Path) : FileTree × Except FileError Unit :=
  makeDirectoriesUpTo p.names.length tree p

/-- The tree with something put at a path, and with the directories on the way to it: a file, or
a directory if there is no content.  What cannot be put there is left out. -/
def place (tree : FileTree) (p : Path) (content : Option Content) : FileTree :=
  let made (q : Path) : FileTree :=
    match tree.makeDirectories q with
    | (made, .ok ()) => made
    | (_, .error _) => tree
  match content with
  | none => made p
  | some content =>
    match (made p.parent).locate p with
    | .ok at_ => (made p.parent).setNode at_ (.file content)
    | .error _ => made p.parent

/-- The tree with some files and directories put into it. -/
def placeAll (tree : FileTree) (contents : List (String × Option Content)) : FileTree :=
  contents.foldl (fun tree (path, content) => tree.place (Path.ofString path) content) tree

/-- The tree that holds some files and directories. -/
def ofContents (contents : List (String × Option Content)) : FileTree := empty.placeAll contents

/-! ### Views -/

/-- The files below the current directory, by path, in the order of the paths. -/
def files (tree : FileTree) : List (String × Content) :=
  let found := tree.nodes.filterMap fun (at_, node) =>
    match node with
    | .file content =>
      if tree.here.isPrefixOf at_ then
        some (Text.join "/" (at_.drop tree.here.length), content)
      else none
    | .directory => none
  found.mergeSort fun a b => decide (a.1 ≤ b.1)

/-- The text of a file as it is read line by line: each carriage return, with or without a line
feed after it, is one line feed. -/
def unifyBreaks : List Char → List Char
  | [] => []
  | '\r' :: '\n' :: rest => '\n' :: unifyBreaks rest
  | '\r' :: rest => '\n' :: unifyBreaks rest
  | c :: rest => c :: unifyBreaks rest

/-- The text of a file with unified line breaks. -/
def Content.lineText : Content → Except Text.Utf8.Fault String
  | .text s => .ok (String.ofList (unifyBreaks s.toList))
  | .bytes raw => do return String.ofList (unifyBreaks (← Text.Utf8.decode raw).toList)

/-- The number of characters or bytes of a file. -/
def Content.length : Content → Nat
  | .text s => s.length
  | .bytes raw => raw.length

end FileTree

end DartScaffold
