/-
**Statements that make tables.**

A table is made by a statement that lists its columns, each with a type of any number of words, and
conditions on them.  Of the conditions two are kept: that a column may not be null, and its default,
as the text that was written.  Conditions on the whole table, and statements about other things,
change no columns.

Main definitions:

* `Database.Token`, `Database.tokens` — the pieces of a statement;
* `Database.columnOf` — the column that a definition describes;
* `Database.execute`, `Database.ofStatements` — what statements do to the tables.
-/

import DartScaffold.Database.Table
import DartScaffold.Text.Blank
import DartScaffold.Text.Split

set_option relaxedAutoImplicit false
set_option autoImplicit false

namespace DartScaffold.Database

/-! ### Tokens -/

/-- A piece of a statement with the blanks before it. -/
structure Token where
  gap : List Char
  text : List Char
deriving DecidableEq, Repr, Inhabited

/-- Whether a character may stand in a name or a number. -/
def isWordChar (c : Char) : Bool := Text.isWordChar c || c == '$' || c == '.'

/-- What encloses a quoted piece that begins with a character. -/
def closing? (c : Char) : Option Char :=
  if c == '\'' || c == '"' || c == '\x60' then some c else if c == '[' then some ']' else none

/-- The rest of a quoted piece, up to a closing character that is not written twice, and what
follows it. -/
def quotedRest (close : Char) : List Char → List Char × List Char
  | [] => ([], [])
  | c :: d :: rest =>
    if c == close && d == close then
      let (inside, after) := quotedRest close rest
      (c :: d :: inside, after)
    else if c == close then ([c], d :: rest)
    else
      let (inside, after) := quotedRest close (d :: rest)
      (c :: inside, after)
  | [c] => ([c], [])

/-- What follows a remark that a star and a slash end. -/
def behindRemark : List Char → List Char
  | '*' :: '/' :: rest => rest
  | _ :: rest => behindRemark rest
  | [] => []

/-- The opening of a quoted piece, with what closes it and what follows.  Bytes are quoted behind
an x. -/
def opening? : List Char → Option (List Char × Char × List Char)
  | 'x' :: '\'' :: rest => some (['x', '\''], '\'', rest)
  | 'X' :: '\'' :: rest => some (['X', '\''], '\'', rest)
  | c :: rest => (closing? c).map fun close => ([c], close, rest)
  | [] => none

/-- The pieces of a text without its remarks; every piece takes at least one character of it. -/
def tokensFrom : (bound : Nat) → List Char → List Token
  | 0, _ => []
  | bound + 1, cs =>
    let gap := cs.takeWhile Text.isBlank
    match cs.dropWhile Text.isBlank with
    | [] => []
    | '-' :: '-' :: rest => tokensFrom bound (rest.dropWhile (· != '\n'))
    | '/' :: '*' :: rest => tokensFrom bound (behindRemark rest)
    | c :: rest =>
      match opening? (c :: rest) with
      | some (opening, close, rest) =>
        let (inside, after) := quotedRest close rest
        ⟨gap, opening ++ inside⟩ :: tokensFrom bound after
      | none =>
        if Text.isWordChar c then
          ⟨gap, c :: rest.takeWhile isWordChar⟩ :: tokensFrom bound (rest.dropWhile isWordChar)
        else ⟨gap, [c]⟩ :: tokensFrom bound rest

/-- The pieces of a statement. -/
def tokens (s : String) : List Token := tokensFrom s.toList.length s.toList

/-- A piece as a keyword. -/
def Token.keyword (t : Token) : String := String.ofList (t.text.map Char.toUpper)

/-- Whether a piece is a single character. -/
def Token.isMark (t : Token) (c : Char) : Bool := t.text == [c]

/-- The inside of a quoted piece, with a closing character that is written twice taken once. -/
def undoubled (close : Char) : List Char → List Char
  | c :: d :: rest =>
    if c == close && d == close then c :: undoubled close rest
    else c :: undoubled close (d :: rest)
  | cs => cs

/-- The name that a piece is: without the quotes around it, or what follows its last point. -/
def Token.name (t : Token) : String :=
  match t.text.head?.bind closing? with
  | some close => String.ofList (undoubled close (t.text.drop 1).dropLast)
  | none => String.ofList (t.text.reverse.takeWhile (· ≠ '.')).reverse

/-- Pieces as they were written. -/
def written (ts : List Token) : String :=
  match ts with
  | [] => ""
  | t :: rest => String.ofList (t.text ++ rest.flatMap fun u => u.gap ++ u.text)

/-! ### Parentheses -/

/-- The pieces up to the parenthesis that closes the given number of them, and those after it. -/
def upToClosing : (depth : Nat) → List Token → List Token × List Token
  | _, [] => ([], [])
  | depth, t :: rest =>
    if t.isMark ')' then
      if depth ≤ 1 then ([], rest)
      else
        let (inside, after) := upToClosing (depth - 1) rest
        (t :: inside, after)
    else
      let (inside, after) := upToClosing (if t.isMark '(' then depth + 1 else depth) rest
      (t :: inside, after)

/-- The lists of pieces between the commas that no parenthesis holds. -/
def definitions : (depth : Nat) → List Token → List (List Token)
  | _, [] => [[]]
  | depth, t :: rest =>
    if depth == 0 && t.isMark ',' then [] :: definitions 0 rest
    else
      let deeper := if t.isMark '(' then depth + 1 else if t.isMark ')' then depth - 1 else depth
      match definitions deeper rest with
      | first :: others => (t :: first) :: others
      | [] => [[t]]

/-- The pieces that no parenthesis holds. -/
def outside : (depth : Nat) → List Token → List Token
  | _, [] => []
  | depth, t :: rest =>
    if t.isMark '(' then outside (depth + 1) rest
    else if t.isMark ')' then outside (depth - 1) rest
    else if depth == 0 then t :: outside depth rest
    else outside depth rest

/-! ### Columns -/

/-- The keywords that begin a condition on a column. -/
def conditionWords : List String := [
  "CONSTRAINT", "PRIMARY", "NOT", "NULL", "UNIQUE", "CHECK", "DEFAULT", "COLLATE", "REFERENCES",
  "GENERATED", "AS"]

/-- The keywords that begin a condition on a table. -/
def tableWords : List String := ["CONSTRAINT", "PRIMARY", "UNIQUE", "CHECK", "FOREIGN"]

/-- Whether two neighbouring keywords forbid a column to be null. -/
def forbidsNull : List Token → Bool
  | t :: u :: rest =>
    (t.keyword == "NOT" && u.keyword == "NULL") || forbidsNull (u :: rest)
  | _ => false

/-- The text of a default: an expression in parentheses, a number with its sign, or one piece. -/
def defaultText : List Token → Option String
  | t :: rest =>
    if t.isMark '(' then some (written (upToClosing 1 rest).1)
    else if t.isMark '-' || t.isMark '+' then some (written (t :: rest.take 1))
    else some (String.ofList t.text)
  | [] => none

/-- The default among the conditions on a column. -/
def defaultIn : List Token → Option String
  | t :: u :: rest =>
    if t.keyword == "SET" then defaultIn rest
    else if t.keyword == "DEFAULT" then defaultText (u :: rest)
    else defaultIn (u :: rest)
  | _ => none

/-- The column that a definition describes. -/
def columnOf (definition : List Token) : Option TableColumn :=
  match definition with
  | [] => none
  | name :: rest =>
    let isType (t : Token) : Bool := !conditionWords.contains t.keyword
    let words := rest.takeWhile fun t => isType t && !t.isMark '('
    let sized := rest.dropWhile fun t => isType t && !t.isMark '('
    let (size, conditions) :=
      match sized with
      | t :: more =>
        if t.isMark '(' then
          let (inside, after) := upToClosing 1 more
          (t :: inside ++ [⟨[], [')']⟩], after)
        else ([], sized)
      | [] => ([], [])
    some {
      name := name.name
      type := written (words ++ size)
      nullable := !forbidsNull (outside 0 conditions)
      default := defaultIn conditions }

/-- The columns that a list of definitions describes. -/
def columnsOf (body : List Token) : List TableColumn :=
  (definitions 0 body).filterMap fun definition =>
    match definition with
    | t :: _ => if tableWords.contains t.keyword then none else columnOf definition
    | [] => none

/-! ### Statements -/

/-- The pieces without the keywords at their start that are among some. -/
def without (keywords : List String) (ts : List Token) : List Token :=
  ts.dropWhile fun t => keywords.contains t.keyword

/-- The unqualified name before a parenthesis, and what stands in the parentheses. -/
def nameAndBody (ts : List Token) : Option (String × List Token) :=
  let names := ts.takeWhile fun t => !t.isMark '('
  match names.getLast?, ts.dropWhile (fun t => !t.isMark '(') with
  | some t, _ :: body => some (t.name, (upToClosing 1 body).1)
  | _, _ => none

/-- What a statement does to the tables. -/
def execute (tables : Tables) (statement : String) : Tables :=
  match tokens statement with
  | t :: rest =>
    if t.keyword ≠ "CREATE" then tables
    else
      match without ["TEMP", "TEMPORARY"] rest with
      | u :: more =>
        if u.keyword ≠ "TABLE" then tables
        else
          match nameAndBody (without ["IF", "NOT", "EXISTS"] more) with
          | some (name, body) => tables.put name (columnsOf body)
          | none => tables
      | [] => tables
  | [] => tables

/-- The tables that statements make. -/
def ofStatements (statements : List String) : Tables := statements.foldl execute []

end DartScaffold.Database
