/-
**Reading expressions.**

An expression is read word by word.  From the loosest on, its levels are: a choice between two
values, either of two, both of two, the opposite, the questions about two values, sums, joined
texts, products, powers, signs; and then an operand with members, elements and calls behind it,
and behind these its filters and tests.  Reading goes on to a word as soon as the one before is
read, so a fault that is the next word counts first.

Main definitions:

* `Template.Parse` — reading from a list of words;
* `Template.unconditional`, `Template.expression` — an expression, without and with choices;
* `Template.items` — one or several expressions with commas between them;
* `Template.target` — the names for an item.
-/

import DartScaffold.Template.Basic
import DartScaffold.Template.Token

set_option relaxedAutoImplicit false
set_option autoImplicit false

namespace DartScaffold.Template

/-- Reading from a list of words. -/
abbrev Parse := StateT (List Word) (Except Flaw)

namespace Parse

/-- Reading fails. -/
def fail {α : Type} (reason : String) : Parse α := throw (.form reason)

/-- The word at hand. -/
def token : Parse Token := do
  match ← get with
  | [] => return .stop endOfTemplate
  | w :: _ => return w.token

/-- The line of the word at hand. -/
def line : Parse Nat := return ((← get).head?.map Word.line).getD 1

/-- A fault counts as soon as it is at hand. -/
def check : Parse Unit := do
  match ← token with
  | .fault flaw => throw flaw
  | _ => pure ()

/-- Goes on to the next word. -/
def advance : Parse Unit := do
  set (← get).tail
  check

/-- The word behind the one at hand. -/
def look : Parse Token := do
  match (← get).tail with
  | [] => return .stop endOfTemplate
  | ⟨.fault flaw, _⟩ :: _ => throw flaw
  | w :: _ => return w.token

/-- Whether the word at hand is a given one; if it is, reading goes on behind it. -/
def skip (t : Token) : Parse Bool := do
  if (← token) == t then
    advance
    return true
  else return false

/-- The words do not go on as expected. -/
def unexpected {α : Type} (what : String) : Parse α := do
  let got ← token
  if got == .stop endOfTemplate then
    fail ("unexpected end of template, expected " ++ Text.quoted what ++ ".")
  else fail ("expected token " ++ Text.quoted what ++ ", got " ++ Text.quoted got.describe)

/-- The word at hand has to be a given one. -/
def expect (t : Token) : Parse Unit := do
  if !(← skip t) then unexpected t.describe

/-- The word at hand has to be a name. -/
def name : Parse String := do
  match ← token with
  | .name n =>
    advance
    return n
  | _ => unexpected "name"

/-- The number of words that are left, which bounds what can be read from them. -/
def bound : Parse Nat := return (← get).length + 1

end Parse

open Parse

/-! ### Operands in a row -/

/-- Operands joined by words between them, from the left; the first one is given. -/
def leftward (operand : Parse Expr) (joined : Token → Option (Expr → Expr → Expr)) :
    (bound : Nat) → Expr → Parse Expr
  | 0, e => return e
  | bound + 1, e => do
    match joined (← token) with
    | none => return e
    | some f =>
      advance
      leftward operand joined bound (f e (← operand))

/-- Operands joined by words between them. -/
def joining (operand : Parse Expr) (joined : Token → Option (Expr → Expr → Expr)) :
    Parse Expr := do
  let first ← operand
  leftward operand joined (← bound) first

/-- What is between an opening and a closing bracket, with commas between and perhaps a last one
behind; the first is read already. -/
def further {α : Type} (closer : String) (item : Parse α) : (bound : Nat) → Parse (List α)
  | 0 => return []
  | bound + 1 => do
    if (← token) == .symbol closer then return []
    expect (.symbol ",")
    if (← token) == .symbol closer then return []
    let x ← item
    return x :: (← further closer item bound)

/-- What is between an opening and a closing bracket, with commas between. -/
def bracketed {α : Type} (closer : String) (item : Parse α) : Parse (List α) := do
  advance
  if ← skip (.symbol closer) then return []
  let first ← item
  let more ← further closer item (← bound)
  expect (.symbol closer)
  return first :: more

/-! ### One or several expressions -/

/-- Whether one or several expressions end at a word. -/
def endsItems (extra : List String) : Token → Bool
  | .stop what => what != endOfTemplate
  | .symbol s => s == ")"
  | .name n => extra.contains n
  | _ => false

/-- Expressions with commas between them, and whether there is a comma. -/
def commaItems (item : Parse Expr) (extra : List String) :
    (bound : Nat) → (sofar : List Expr) → Parse (List Expr × Bool)
  | 0, sofar => return (sofar, false)
  | bound + 1, sofar => do
    if endsItems extra (← token) then return (sofar, false)
    let sofar := sofar ++ [← item]
    if ← skip (.symbol ",") then return ((← commaItems item extra bound sofar).1, true)
    else return (sofar, false)

/-- One expression, or several with commas between them.  Only between brackets there may be
none. -/
def items (item : Parse Expr) (extra : List String) (inBrackets : Bool) : Parse Expr := do
  match ← commaItems item extra (← bound) [] with
  | ([e], false) => return e
  | ([], false) =>
    if inBrackets then return .tuple []
    else fail ("Expected an expression, got " ++ Text.quoted (← token).describe)
  | (several, _) => return .tuple several

/-! ### Operands -/

/-- What a function, a filter or a test is given; the first are read already.  Behind what is given
by name nothing is given without one. -/
def argumentsFrom (nested : Parse Expr) :
    (bound : Nat) → (sofar : List (Option String × Expr)) → Parse (List (Option String × Expr))
  | 0, sofar => return sofar
  | bound + 1, sofar => do
    if (← token) == .symbol ")" then return sofar
    if !sofar.isEmpty then expect (.symbol ",")
    if (← token) == .symbol ")" then return sofar
    let name? ←
      match ← token with
      | .name n => pure (if (← look) == .symbol "=" then some n else none)
      | _ => pure none
    match name? with
    | some n =>
      advance
      advance
      argumentsFrom nested bound (sofar ++ [(some n, ← nested)])
    | none =>
      if sofar.any fun (given, _) => given.isSome then
        fail "invalid syntax for function call expression"
      argumentsFrom nested bound (sofar ++ [(none, ← nested)])

/-- What a function, a filter or a test is given in brackets. -/
def arguments (nested : Parse Expr) : Parse (List (Option String × Expr)) := do
  expect (.symbol "(")
  let given ← argumentsFrom nested (← bound) []
  expect (.symbol ")")
  return given

/-- Texts in a row are one text. -/
def textsFrom : (bound : Nat) → (sofar : String) → Parse String
  | 0, sofar => return sofar
  | bound + 1, sofar => do
    match ← token with
    | .text s =>
      advance
      textsFrom bound (sofar ++ s)
    | _ => return sofar

/-- The value that a name stands for by itself. -/
def literalOf? : String → Option Datum
  | "true" | "True" => some (.bool true)
  | "false" | "False" => some (.bool false)
  | "none" | "None" => some .null
  | _ => none

/-- A member of an object. -/
def pair (nested : Parse Expr) : Parse (Expr × Expr) := do
  let key ← nested
  expect (.symbol ":")
  return (key, ← nested)

/-- An operand with nothing behind it. -/
def operand (nested : Parse Expr) : Parse Expr := do
  match ← token with
  | .name n =>
    advance
    return match literalOf? n with
      | some d => .literal d
      | none => .name n
  | .text _ => return .literal (.text (← textsFrom (← bound) ""))
  | .int n =>
    advance
    return .literal (.int n)
  | .double d =>
    advance
    return .literal (.double d)
  | .symbol "(" =>
    advance
    let e ← items nested [] true
    expect (.symbol ")")
    return e
  | .symbol "[" => return .list (← bracketed "]" nested)
  | .symbol "\x7b" => return .object (← bracketed "\x7d" (pair nested))
  | t => fail ("unexpected " ++ Text.quoted t.describe)

/-- What stands behind an operand: members, elements and calls. -/
def suffixes (nested : Parse Expr) : (bound : Nat) → Expr → Parse Expr
  | 0, e => return e
  | bound + 1, e => do
    match ← token with
    | .symbol "." =>
      advance
      let part ← token
      advance
      match part with
      | .name n => suffixes nested bound (.member e n)
      | .int n => suffixes nested bound (.element e (.literal (.int n)))
      | _ => fail "expected name or number"
    | .symbol "[" =>
      match ← bracketed "]" nested with
      | [key] => suffixes nested bound (.element e key)
      | keys => suffixes nested bound (.element e (.tuple keys))
    | .symbol "(" => suffixes nested bound (.call e (← arguments nested))
    | _ => return e

/-- The further parts of a name with dots. -/
def dottedFrom : (bound : Nat) → (sofar : String) → Parse String
  | 0, sofar => return sofar
  | bound + 1, sofar => do
    if ← skip (.symbol ".") then dottedFrom bound (sofar ++ "." ++ (← name)) else return sofar

/-- A name that may have dots. -/
def dotted : Parse String := do dottedFrom (← bound) (← name)

/-- Whether a test is given what begins with a word. -/
def beginsArgument : Token → Bool
  | .name n => n != "else" && n != "or" && n != "and"
  | .text _ | .int _ | .double _ => true
  | .symbol s => s == "[" || s == "\x7b"
  | _ => false

/-- A test of an operand, behind its first word. -/
def testOf (nested : Parse Expr) (e : Expr) : Parse Expr := do
  let negated ← skip (.name "not")
  let test ← dotted
  let given ←
    if (← token) == .symbol "(" then arguments nested
    else if beginsArgument (← token) then
      if (← token) == .name "is" then fail "You cannot chain multiple tests with is"
      let first ← operand nested
      pure [(none, ← suffixes nested (← bound) first)]
    else pure []
  return if negated then .negate (.test test e given) else .test test e given

/-- The filters and tests behind an operand, and calls of what they give. -/
def refined (nested : Parse Expr) : (bound : Nat) → Expr → Parse Expr
  | 0, e => return e
  | bound + 1, e => do
    match ← token with
    | .symbol "|" =>
      advance
      let filter ← dotted
      let given ← if (← token) == .symbol "(" then arguments nested else pure []
      refined nested bound (.filter filter e given)
    | .name "is" =>
      advance
      refined nested bound (← testOf nested e)
    | .symbol "(" => refined nested bound (.call e (← arguments nested))
    | _ => return e

/-- An operand with signs before it and all that stands behind it.  Filters apply to a signed
operand, not to the operand behind a sign. -/
def signed (nested : Parse Expr) : (bound : Nat) → (filtered : Bool) → Parse Expr
  | 0, _ => operand nested
  | bound + 1, filtered => do
    let e ←
      match ← token with
      | .symbol "-" =>
        advance
        pure (.sign true (← signed nested bound false))
      | .symbol "+" =>
        advance
        pure (.sign false (← signed nested bound false))
      | _ => operand nested
    let e ← suffixes nested (← Parse.bound) e
    if filtered then refined nested (← Parse.bound) e else return e

/-! ### Levels -/

/-- The words between the operands of a power. -/
def powers : Token → Option (Expr → Expr → Expr)
  | .symbol "**" => some (.operate .power)
  | _ => none

/-- The words between the operands of a product. -/
def products : Token → Option (Expr → Expr → Expr)
  | .symbol "*" => some (.operate .times)
  | .symbol "/" => some (.operate .divided)
  | .symbol "//" => some (.operate .floored)
  | .symbol "%" => some (.operate .remainder)
  | _ => none

/-- The word between joined texts. -/
def joints : Token → Option (Expr → Expr → Expr)
  | .symbol "~" => some .join
  | _ => none

/-- The words between the operands of a sum. -/
def sums : Token → Option (Expr → Expr → Expr)
  | .symbol "+" => some (.operate .plus)
  | .symbol "-" => some (.operate .minus)
  | _ => none

/-- The question that the words at hand ask, if they ask one; reading goes on behind them. -/
def relation? : Parse (Option Relation) := do
  match ← token with
  | .symbol s =>
    let found : Option Relation :=
      match s with
      | "==" => some .equal
      | "!=" => some .unequal
      | "<" => some .less
      | "<=" => some .atMost
      | ">" => some .greater
      | ">=" => some .atLeast
      | _ => none
    if found.isSome then advance
    return found
  | .name "in" =>
    advance
    return some .within
  | .name "not" =>
    if (← look) == .name "in" then
      advance
      advance
      return some .outside
    else return none
  | _ => return none

/-- Questions about operands in a row, each about two that stand side by side; the first operand
is given.  All have to hold. -/
def relations (side : Parse Expr) :
    (bound : Nat) → (left : Expr) → (sofar : Option Expr) → Parse Expr
  | 0, left, sofar => return sofar.getD left
  | bound + 1, left, sofar => do
    match ← relation? with
    | none => return sofar.getD left
    | some how =>
      let right ← side
      let asked := Expr.compare how left right
      relations side bound right (some ((sofar.map (Expr.both · asked)).getD asked))

/-- The opposite of an operand, as often as it is asked for. -/
def opposite (side : Parse Expr) : (bound : Nat) → Parse Expr
  | 0 => side
  | bound + 1 => do
    if ← skip (.name "not") then return .negate (← opposite side bound) else side

/-- The level of questions, and those below. -/
def questions (nested : Parse Expr) : Parse Expr := do
  let power := joining (do signed nested (← bound) true) powers
  let sum := joining (joining (joining power products) joints) sums
  let first ← sum
  relations sum (← bound) first none

/-- An expression without choices; `nested` reads what stands in brackets. -/
def simple (nested : Parse Expr) : Parse Expr :=
  let both := joining (do opposite (questions nested) (← bound)) fun
    | .name "and" => some .both
    | _ => none
  joining both fun
    | .name "or" => some .either
    | _ => none

/-- Where a template is, as messages speak of a line of it. -/
def placeOf (templateName : Option String) (line : Nat) : String :=
  "line " ++ toString line ++ ((templateName.map fun n => " in " ++ Text.quoted n).getD "")

/-- The value of a choice that has no second part. -/
def noElse (templateName : Option String) (line : Nat) : Expr :=
  .nothing ("the inline if-expression on " ++ placeOf templateName line ++
    " evaluated to false and no else section was defined.")

/-- Choices between operands; the first operand may be given, with its line. -/
def choices (side : Parse Expr) (templateName : Option String) :
    (bound : Nat) → (yes : Option (Expr × Nat)) → Parse Expr
  | 0, some (yes, _) => return yes
  | 0, none => side
  | bound + 1, none => do
    let line ← line
    choices side templateName bound (some (← side, line))
  | bound + 1, some (yes, line) => do
    if ← skip (.name "if") then
      let test ← side
      let no ←
        if ← skip (.name "else") then choices side templateName bound none
        else pure (noElse templateName line)
      choices side templateName bound (some (.choose test yes no, ← Parse.line))
    else return yes

/-- An expression with brackets up to a depth inside it. -/
def expressionWithin (templateName : Option String) : (depth : Nat) → Parse Expr
  | 0 => unexpected "expression"
  | depth + 1 => do
    choices (simple (expressionWithin templateName depth)) templateName (2 * (← bound)) none

/-- An expression. -/
def expression (templateName : Option String) : Parse Expr := do
  expressionWithin templateName (← bound)

/-- An expression that is no choice. -/
def unconditional (templateName : Option String) : Parse Expr := do
  simple (expressionWithin templateName (← bound))

/-! ### Names for items -/

/-- How messages speak of an expression that is no name. -/
def kindOf : Expr → String
  | .list _ => "list"
  | .object _ => "dict"
  | .tuple _ => "tuple"
  | _ => "const"

mutual

/-- The names that an expression is made of, if it is made of names. -/
def target? : Expr → Option Target
  | .name n => some (.name n)
  | .tuple parts => (targets? parts).map .tuple
  | _ => none

/-- The names that expressions are made of. -/
def targets? : List Expr → Option (List Target)
  | [] => some []
  | e :: rest => do return (← target? e) :: (← targets? rest)

end

/-- The names for an item, up to one of some names. -/
def target (templateName : Option String) (extra : List String) : Parse Target := do
  let e ← items (operand (expression templateName)) extra false
  match target? e with
  | some t => return t
  | none => fail ("can't assign to " ++ Text.quoted (kindOf e))

end DartScaffold.Template
