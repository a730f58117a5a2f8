/-
**Reading a written template.**

The words of a gap make an expression, and the tags say which parts are kept, left out or repeated
and where names are given.  Tags that hold others are closed by a tag of their own; while the pieces
are gone through, the tags that are still open are kept on a stack together with the parts before
them.

Main definitions:

* `Template.Opened`, `Template.Reading` — the tags that are open, and the state of reading;
* `Template.ofText` — reads a template.
-/

import DartScaffold.Template.Check
import DartScaffold.Template.Chunk
import DartScaffold.Template.Grammar

set_option relaxedAutoImplicit false
set_option autoImplicit false

namespace DartScaffold.Template

open Parse

/-! ### Open tags -/

/-- A tag that is open. -/
inductive Opened where
  /-- The alternatives that are closed, and the test of the open one; the last one has none. -/
  | branch (closed : List (Expr × List Segment)) (test : Option Expr)
  | repeated (target : Target) (range keep : Expr)
  /-- What stands in place of a repeated part that has no item. -/
  | otherwise (target : Target) (range keep : Expr) (body : List Segment)
deriving Repr

/-- The name of the tag that opened it. -/
def Opened.name : Opened → String
  | .branch .. => "if"
  | .repeated .. | .otherwise .. => "for"

/-- The tags that may go on with it. -/
def Opened.next : Opened → List String
  | .branch _ (some _) => ["elif", "else", "endif"]
  | .branch _ none => ["endif"]
  | .repeated .. => ["endfor", "else"]
  | .otherwise .. => ["endfor"]

/-- The state of reading: the parts of the innermost open tag, and the open tags with the parts
before them, the innermost first.  Parts are kept in the order of reading. -/
structure Reading where
  parts : List Segment
  opened : List (Opened × List Segment)
deriving Repr

/-- What the open tags still lack, for a message. -/
def Reading.looking (r : Reading) : String :=
  match r.opened with
  | [] => ""
  | (o, _) :: _ =>
    " Jinja was looking for the following tags: " ++
      Text.join " or " (o.next.map Text.quoted) ++
      ". The innermost block that needs to be closed is " ++ Text.quoted o.name ++ "."

/-- What is wrong with a tag that stands where it cannot. -/
def Reading.misplaced (r : Reading) (name : String) : String :=
  let nested := match r.opened with
    | [] => false
    | _ :: outer => outer.any fun (o, _) => o.next.contains name
  let what := "Encountered unknown tag " ++ Text.quoted name ++ "."
  match r.opened with
  | (o, _) :: _ =>
    if nested then
      what ++ " You probably made a nesting mistake. Jinja is expecting this tag," ++
        " but currently looking for " ++ Text.join " or " (o.next.map Text.quoted) ++
        ". The innermost block that needs to be closed is " ++ Text.quoted o.name ++ "."
    else what ++ r.looking
  | [] => what

/-- Reading goes on with a part. -/
def Reading.add (r : Reading) (p : Segment) : Reading := { r with parts := r.parts ++ [p] }

/-! ### Tags -/

/-- The end of a tag that goes on with others inside it; a colon may stand before it. -/
def tagEnd : Parse Unit := do
  let _ ← skip (.symbol ":")
  expect (.stop tagClosing.what)

/-- What an item is named by, what is gone through, and which items are kept. -/
def repetition (templateName : Option String) : Parse (Target × Expr × Expr) := do
  let target ← target templateName ["in"]
  expect (.name "in")
  let range ← items (unconditional templateName) ["recursive"] false
  let keep ← if ← skip (.name "if") then expression templateName else pure always
  let _ ← skip (.name "recursive")
  return (target, range, keep)

/-- Reading goes on with a tag, behind its name. -/
def Reading.tag (templateName : Option String) (r : Reading) (name : String) : Parse Reading := do
  match name, r.opened with
  | "elif", (.branch closed (some test), before) :: outer =>
    let next ← items (unconditional templateName) [] false
    tagEnd
    return ⟨[], (.branch (closed ++ [(test, r.parts)]) (some next), before) :: outer⟩
  | "else", (.branch closed (some test), before) :: outer =>
    tagEnd
    return ⟨[], (.branch (closed ++ [(test, r.parts)]) none, before) :: outer⟩
  | "endif", (.branch closed test, before) :: outer =>
    expect (.stop tagClosing.what)
    let parts :=
      match test with
      | some test => choose (closed ++ [(test, r.parts)]) []
      | none => choose closed r.parts
    return ⟨before ++ parts, outer⟩
  | "else", (.repeated t range keep, before) :: outer =>
    tagEnd
    return ⟨[], (.otherwise t range keep r.parts, before) :: outer⟩
  | "endfor", (.repeated t range keep, before) :: outer =>
    expect (.stop tagClosing.what)
    return ⟨before ++ [.repeated t range keep r.parts []], outer⟩
  | "endfor", (.otherwise t range keep body, before) :: outer =>
    expect (.stop tagClosing.what)
    return ⟨before ++ [.repeated t range keep body r.parts], outer⟩
  | "if", opened =>
    let test ← items (unconditional templateName) [] false
    tagEnd
    return ⟨[], (.branch [] (some test), r.parts) :: opened⟩
  | "for", opened =>
    let (target, range, keep) ← repetition templateName
    tagEnd
    return ⟨[], (.repeated target range keep, r.parts) :: opened⟩
  | "set", _ =>
    let t ← target templateName []
    expect (.symbol "=")
    let e ← items (expression templateName) [] false
    expect (.stop tagClosing.what)
    return r.add (.assign t e)
  | _, _ => fail (r.misplaced name)

/-- Reading goes on with a tag.  What is wrong with its name counts before the words behind it,
unless these make no word at all. -/
def Reading.wholeTag (templateName : Option String) (r : Reading) : Parse Reading := do
  check
  match ← token with
  | .name n =>
    let known := ["if", "for", "set"] ++ ((r.opened.head?.map fun o => o.1.next).getD [])
    if !known.contains n then fail (r.misplaced n)
    advance
    r.tag templateName n
  | _ => fail "tag name expected"

/-- The expression in a gap. -/
def wholeGap (templateName : Option String) : Parse Expr := do
  check
  let e ← items (expression templateName) [] false
  expect (.stop gapClosing.what)
  return e

/-- Reading goes on with a piece. -/
def Reading.step (templateName : Option String) (r : Reading) : Chunk → Except Flaw Reading
  | .text s => .ok (r.add (.text s))
  | .gap words => do return r.add (.value (← (wholeGap templateName).run' words))
  | .tag words => (r.wholeTag templateName).run' words
  | .fault flaw => .error flaw

/-! ### Templates -/

/-- The parts that a text writes. -/
def partsOf (templateName : Option String) (s : String) : Except Flaw Template := do
  let r ← (chunks s.toList).foldlM (Reading.step templateName) ⟨[], []⟩
  match r.opened with
  | [] => return r.parts
  | _ => throw (.form ("Unexpected end of template." ++ r.looking))

/-- The template that a text writes, which may have a name. -/
def ofText (templateName : Option String) (s : String) : Except Flaw Template :=
  match partsOf templateName s with
  | .error flaw => .error flaw
  | .ok t =>
    match senseless? t with
    | some reason => .error (.senseless reason)
    | none => .ok t

end DartScaffold.Template
