/-
**The pieces of a written template.**

In a written template a gap stands between two pairs of braces and a tag between braces with
percent signs; what stands between braces with number signs is a remark, and what stands between a
raw tag and its end is a text as it is.  The blanks before a tag or remark are dropped when it
stands first on its line, and so is the line break right behind it.  A hyphen at the edge of a gap,
tag or remark drops all blanks on that side, and a plus sign at the edge of a tag or remark keeps
them.  Lines may be broken in any of the usual ways.

Main definitions:

* `Template.withPlainBreaks` — a text with its lines broken in one way;
* `Template.Chunk`, `Template.chunks` — the pieces of a written template.
-/

import DartScaffold.Template.Token

set_option relaxedAutoImplicit false
set_option autoImplicit false

namespace DartScaffold.Template

/-! ### Lines -/

/-- The characters with every line broken by a line feed alone. -/
def withPlainBreaks : List Char → List Char
  | [] => []
  | '\r' :: '\n' :: rest => '\n' :: withPlainBreaks rest
  | c :: rest => (if c = '\r' then '\n' else c) :: withPlainBreaks rest

/-! ### Pieces -/

/-- A piece of a written template. -/
inductive Chunk where
  | text (s : String)
  | gap (words : List Word)
  | tag (words : List Word)
  /-- From here on the text is no template. -/
  | fault (flaw : Flaw)
deriving DecidableEq, Repr

/-- The characters before the first gap, tag or remark, and those from it on. -/
def untilOpening : List Char → List Char × List Char
  | [] => ([], [])
  | '\x7b' :: c :: rest =>
    if c = '\x7b' ∨ c = '%' ∨ c = '#' then ([], '\x7b' :: c :: rest)
    else
      let (before, after) := untilOpening (c :: rest)
      ('\x7b' :: before, after)
  | c :: rest =>
    let (before, after) := untilOpening rest
    (c :: before, after)

/-- The characters without the blanks behind the last line break.  Where there is no line break
they are kept, unless the characters begin a line. -/
def dropIndent (startsLine : Bool) (cs : List Char) : List Char :=
  let line := (cs.reverse.takeWhile (· != '\n')).reverse
  if line.all Text.isBlank && (startsLine || cs.contains '\n') then
    cs.take (cs.length - line.length)
  else cs

/-- The characters before a gap, tag or remark as they are kept. -/
def keptBefore (startsLine isGap : Bool) (sign : Option Char) (cs : List Char) : List Char :=
  match sign with
  | some '-' => Text.trimEnd Text.isBlank cs
  | some _ => cs
  | none => if isGap then cs else dropIndent startsLine cs

/-- What is behind a gap, tag or remark as it is kept, and whether it begins a line. -/
def keptAfter (isGap : Bool) (how : Ending) (cs : List Char) : Bool × List Char :=
  match how with
  | .trimming =>
    (((cs.takeWhile Text.isBlank).getLast?).any (· == '\n'), cs.dropWhile Text.isBlank)
  | .plain =>
    match cs with
    | '\n' :: rest => if isGap then (false, cs) else (true, rest)
    | _ => (false, cs)
  | .keeping => (false, cs)

/-- The sign at the edge of a gap, tag or remark, and what is behind it. -/
def signOf : List Char → Option Char × List Char
  | c :: rest => if c = '-' ∨ c = '+' then (some c, rest) else (none, c :: rest)
  | [] => (none, [])

/-- The end of a remark, and what is behind it. -/
def remarkEnd? : List Char → Option (Ending × List Char)
  | [] => none
  | c :: rest => (ending? ['#', '\x7d'] (c :: rest)).or (remarkEnd? rest)

/-- How a tag of a single name ends, and what is behind it; the characters are those behind its
beginning. -/
def lonelyTag? (name : String) (cs : List Char) : Option (Ending × List Char) :=
  let cs := cs.dropWhile Text.isBlank
  if name.toList.isPrefixOf cs then
    ending? tagClosing.mark ((cs.drop name.length).dropWhile Text.isBlank)
  else none

/-- The characters up to the tag that ends a text as it is, the sign at its edge, how it ends, and
what is behind it. -/
def rawEnd? : List Char → Option (List Char × Option Char × Ending × List Char)
  | [] => none
  | c :: rest =>
    let here : Option (Option Char × Ending × List Char) :=
      match c, rest with
      | '\x7b', '%' :: inside =>
        let (sign, behind) := signOf inside
        (lonelyTag? "endraw" behind).map (sign, ·)
      | _, _ => none
    match here with
    | some found => some ([], found)
    | none => (rawEnd? rest).map fun (before, found) => (c :: before, found)

/-- A text as a piece, unless it is empty. -/
def textChunk (cs : List Char) : List Chunk :=
  if cs.isEmpty then [] else [.text (String.ofList cs)]

/-- The flaw of an end that is missing, unless the text ends right there. -/
def missingEnd (what : String) (cs : List Char) : List Chunk :=
  if cs.isEmpty then [] else [.fault (.form ("Missing end of " ++ what))]

/-- The pieces of the characters; the number of characters bounds the number of pieces. -/
def chunksUpTo (x : Extent) : (bound : Nat) → (startsLine : Bool) → List Char → List Chunk
  | 0, _, _ => []
  | bound + 1, startsLine, cs =>
    let (before, after) := untilOpening cs
    match after with
    | _ :: kind :: rest =>
      let (sign, rest) := signOf rest
      let isGap := kind == '\x7b'
      let kept := textChunk (keptBefore startsLine isGap sign before)
      let raw? := if kind = '%' then (lonelyTag? "raw" rest).filter (·.1 != .keeping) else none
      if kind = '#' then
        match remarkEnd? rest with
        | none => kept ++ missingEnd "comment tag" rest
        | some (how, behind) =>
          let (startsLine, behind) := keptAfter false how behind
          kept ++ chunksUpTo x bound startsLine behind
      else
        match raw? with
        | some (how, behind) =>
          let (startsLine, inside) := keptAfter true how behind
          match rawEnd? inside with
          | none => kept ++ missingEnd "raw directive" inside
          | some (raw, sign, how, behind) =>
            let text := textChunk (keptBefore startsLine false sign raw)
            let (startsLine, behind) := keptAfter false how behind
            kept ++ text ++ chunksUpTo x bound startsLine behind
        | none =>
          let closing := if isGap then gapClosing else tagClosing
          let (words, close) := wordsUntil x closing (rest.length + 1) false [] rest
          let piece : Chunk := if isGap then .gap words else .tag words
          match close with
          | none => kept ++ [piece]
          | some (how, behind) =>
            let (startsLine, behind) := keptAfter isGap how behind
            kept ++ piece :: chunksUpTo x bound startsLine behind
    | _ => textChunk before

/-- The pieces of a written template. -/
def chunks (cs : List Char) : List Chunk :=
  let cs := withPlainBreaks cs
  chunksUpTo ⟨cs.length, cs.count '\n'⟩ (cs.length + 1) true cs

end DartScaffold.Template
