/-
**Reading a command line.**

A word that begins with a dash is a switch: it is written in full, by the start of its name if that
leaves no doubt, or together with its value.  Several switches of one letter may share a dash; what
is wrong with one of them is found before any of them has an effect.  All words behind a double dash
are operands, and a double dash that is attached to a switch as its value empties it.  Switches and
operands may be mixed; words that belong to nothing are kept apart.  Reading ends early when help or
the version is asked for, and when something is wrong.

Main definitions:

* `Command.UsageFault`, `Command.Stop` — what can be wrong, and why reading ends early;
* `Command.Mark`, `Command.markOf` — what a word is;
* `Command.bundle`, `Command.unbundled` — the switches that share a dash;
* `Command.Value` — what a switch is set to;
* `Command.Given`, `Command.read` — what a command line gives, and how it is read.
-/

import DartScaffold.Command.Grammar
import DartScaffold.Datum.Basic
import DartScaffold.Text.Digit
import DartScaffold.Text.LetterCase

set_option relaxedAutoImplicit false
set_option autoImplicit false

namespace DartScaffold.Command

/-! ### Reading that ends early -/

/-- What can be wrong with a command line. -/
inductive UsageFault where
  | expectedArgument (switch : String)
  | ignoredArgument (switch value : String)
  | invalidChoice (what value : String) (choices : List String)
  | ambiguous (word : String) (candidates : List String)
  | missing (operand : String)
  | unrecognized (words : List String)
deriving DecidableEq, Repr

/-- The wording of what is wrong with a command line. -/
def UsageFault.message : UsageFault → String
  | .expectedArgument switch => "argument " ++ switch ++ ": expected one argument"
  | .ignoredArgument switch value =>
    "argument " ++ switch ++ ": ignored explicit argument " ++ Text.quoted value
  | .invalidChoice what value choices =>
    "argument " ++ what ++ ": invalid choice: " ++ Text.quoted value ++ " (choose from " ++
      Text.join ", " (choices.map Text.quoted) ++ ")"
  | .ambiguous word candidates =>
    "ambiguous option: " ++ word ++ " could match " ++ Text.join ", " candidates
  | .missing operand => "the following arguments are required: " ++ operand
  | .unrecognized words => "unrecognized arguments: " ++ Text.join " " words

/-- Why reading ends early. -/
inductive Stop where
  | help (program : String)
  | version
  | usage (program : String) (fault : UsageFault)
deriving DecidableEq, Repr

/-- The code that the program ends with. -/
def Stop.exitCode : Stop → Nat
  | .usage _ _ => 2
  | _ => 0

/-- The last line that is written when reading ends because something is wrong. -/
def Stop.usageLine : Stop → String
  | .usage program fault => program ++ ": error: " ++ fault.message
  | _ => ""

/-- Ends reading because something is wrong. -/
def Grammar.refuse {α : Type} (g : Grammar) (fault : UsageFault) : Except Stop α :=
  .error (.usage g.program fault)

/-! ### Words -/

/-- What a word is. -/
inductive Mark where
  | argument
  /-- The double dash. -/
  | separator
  /-- A switch, and the value written together with it. -/
  | switch (s : Switch) (isLong : Bool) (attached : Option String)
  | unknown
deriving Repr

/-- Whether the word may be a switch or stands for one. -/
def Mark.isSwitch : Mark → Bool
  | .switch .. => true
  | .unknown => true
  | _ => false

/-- Whether a text is a run of digits. -/
def isNumber (cs : List Char) : Bool :=
  !cs.isEmpty && cs.all fun c => (Text.digitValue? c).isSome

/-- Whether a word writes a negative number. -/
def isNegativeNumber (word : String) : Bool :=
  match word.toList with
  | '-' :: cs =>
    let cs := if cs.getLast? == some '\n' then cs.dropLast else cs
    isNumber cs || isNumber ((cs.dropWhile fun c => (Text.digitValue? c).isSome).drop 1) &&
      (cs.dropWhile fun c => (Text.digitValue? c).isSome).head? == some '.'
  | _ => false

/-- The name that a word has before an equals sign, and the value after it. -/
def attachedTo (word : String) : String × Option String :=
  match Text.cut? "=" word with
  | some (name, value) => (name, some value)
  | none => (word, none)

/-- The switches that an incomplete word may mean: those whose names begin with it, or the one of a
single letter that the word begins with. -/
def candidates (g : Grammar) (word : String) : List (String × Mark) :=
  if Text.startsWith "--" word then
    let (start, attached) := attachedTo word
    (g.names.filter fun n => Text.startsWith start n.1).map fun (name, s) =>
      (name, .switch s true attached)
  else
    let letter := String.ofList (word.toList.take 2)
    (g.names.filter fun n => n.1 == letter).map fun (name, s) =>
      (name, .switch s false (some (String.ofList (word.toList.drop 2))))

/-- What a word is that is no double dash and has none before it. -/
def markOf (g : Grammar) (word : String) : Except Stop Mark :=
  if word.toList.head? ≠ some '-' ∨ word = "-" then .ok .argument
  else
    let isLong := Text.startsWith "--" word
    let (name, attached) := attachedTo word
    match g.find? word, g.find? name with
    | some s, _ => .ok (.switch s isLong none)
    | none, some s => .ok (.switch s isLong attached)
    | none, none =>
      match candidates g word with
      | [(_, mark)] => .ok mark
      | [] =>
        .ok (if isNegativeNumber word || word.toList.contains ' ' then .argument else .unknown)
      | several => g.refuse (.ambiguous word (several.map Prod.fst))

/-- The words of a command line, each with what it is. -/
def marked (g : Grammar) : List String → Except Stop (List (String × Mark))
  | [] => .ok []
  | "--" :: rest => .ok (("--", .separator) :: rest.map fun word => (word, .argument))
  | word :: rest => do
    let mark ← markOf g word
    return (word, mark) :: (← marked g rest)

/-! ### Switches that share a dash -/

/-- How the last of the switches that share a dash ends. -/
inductive Ending where
  | value (s : Switch) (value : String)
  /-- Its value, if it takes one, is the next word. -/
  | following (s : Switch)
deriving Repr

/-- The switches that share a dash, and the end of the last one, where `s` is the switch before the
given characters.  These are its value if it takes one, and else the letters of further switches. -/
def bundle (g : Grammar) : List Char → (s : Switch) → Except Stop (List Switch × Ending)
  | [], s =>
    if s.action.takesValue then .ok ([], .value s "") else g.refuse (.ignoredArgument s.title "")
  | c :: rest, s =>
    if s.action.takesValue then .ok ([], .value s (String.ofList (c :: rest)))
    else
      match g.find? (String.ofList ['-', c]) with
      | none => g.refuse (.ignoredArgument s.title (String.ofList (c :: rest)))
      | some next =>
        if rest.isEmpty then .ok ([s], .following next)
        else (bundle g rest next).map fun (more, ending) => (s :: more, ending)

/-- The switches that a word stands for which has a value attached to it.  A switch with a long name
stands alone. -/
def unbundled (g : Grammar) (s : Switch) (isLong : Bool) (attached : String) :
    Except Stop (List Switch × Ending) :=
  if !isLong then bundle g attached.toList s
  else if s.action.takesValue then .ok ([], .value s attached)
  else g.refuse (.ignoredArgument s.title attached)

/-! ### What is given -/

/-- What a switch that takes a value is set to. -/
inductive Value where
  | unset
  /-- It was given the double dash, which stands for no word. -/
  | emptied
  | word (s : String)
deriving DecidableEq, Repr, Inhabited

namespace Value

/-- The word of a value, if it counts as something. -/
def nonempty? : Value → Option String
  | .word s => if s = "" then none else some s
  | _ => none

/-- A value as a document. -/
def document : Value → Datum
  | .unset => .null
  | .emptied => .list []
  | .word s => .text s

end Value

/-- What a command line gives. -/
structure Given where
  values : Entries String Value
  flags : List String
  /-- The operand, or the word for it and everything after it. -/
  operand : List String
  /-- The words that belong to nothing. -/
  extras : List String
deriving DecidableEq, Repr, Inhabited

/-- What a switch is set to. -/
def Given.value (given : Given) (key : String) : Value := (given.values.lookup key).getD .unset

/-- The value that a word stands for. -/
def valueOf (g : Grammar) (s : Switch) (word : String) : Except Stop Value :=
  if word = "--" then .ok .emptied
  else
    match s.action with
    | .choice words =>
      let upper := Text.upper word
      if words.contains upper then .ok (.word upper)
      else g.refuse (.invalidChoice s.title upper words)
    | _ => .ok (.word word)

/-- What a switch does that is set to a word. -/
def performValue (g : Grammar) (s : Switch) (word : String) (given : Given) :
    Except Stop Given := do
  return { given with values := given.values.put s.key (← valueOf g s word) }

/-- What a switch does that takes no value. -/
def performAlone (g : Grammar) (s : Switch) (given : Given) : Except Stop Given :=
  match s.action with
  | .help => .error (.help g.program)
  | .version => .error .version
  | _ => .ok { given with flags := given.flags ++ [s.key] }

/-- The word that a switch is set to whose value, if it takes one, is the next word, and the words
after it. -/
def nextWord (g : Grammar) (s : Switch) (rest : List (String × Mark)) :
    Except Stop (Option String × List (String × Mark)) :=
  if s.action.takesValue then
    match rest with
    | (word, .argument) :: rest => .ok (some word, rest)
    | _ => g.refuse (.expectedArgument s.title)
  else .ok (none, rest)

/-- The switches that a word stands for, the last of them apart with the word it is set to, and the
words after them. -/
def switchesAt (g : Grammar) (s : Switch) (isLong : Bool) (attached : Option String)
    (rest : List (String × Mark)) :
    Except Stop (List Switch × Switch × Option String × List (String × Mark)) := do
  let (flags, ending) ←
    match attached with
    | some value => unbundled g s isLong value
    | none => .ok ([], .following s)
  match ending with
  | .value s value => return (flags, s, some value, rest)
  | .following s => do
    let (word, rest) ← nextWord g s rest
    return (flags, s, word, rest)

/-- What a word does that may be a switch. -/
def performWord (g : Grammar) (word : String) (mark : Mark) (rest : List (String × Mark))
    (given : Given) : Except Stop (Given × List (String × Mark)) :=
  match mark with
  | .switch s isLong attached => do
    let (flags, last, value, rest) ← switchesAt g s isLong attached rest
    let given ← flags.foldlM (fun given s => performAlone g s given) given
    match value with
    | some word => return (← performValue g last word given, rest)
    | none => return (← performAlone g last given, rest)
  | _ => .ok ({ given with extras := given.extras ++ [word] }, rest)

/-- Whether a word is the double dash. -/
def isSeparator : String × Mark → Bool
  | (_, .separator) => true
  | _ => false

/-- The operand that words begin with, and the words after it. -/
def operandAt (operand : Operand) (words : List (String × Mark)) :
    Option (List String × List (String × Mark)) :=
  match operand, words.dropWhile isSeparator with
  | .one _, (word, .argument) :: rest => some ([word], rest.dropWhile isSeparator)
  | .remainder, (_, .argument) :: _ => some (words.map Prod.fst, [])
  | _, _ => none

/-- Takes words in turn.  The operand is taken as soon as there is one; words before the next
switch that are no operand belong to nothing.  Every step takes a word. -/
def consume (g : Grammar) : (bound : Nat) → (operand : Operand) → List (String × Mark) → Given →
    Except Stop (Given × Operand)
  | 0, operand, _, given => .ok (given, operand)
  | bound + 1, operand, words, given =>
    let before := words.takeWhile fun w => !w.2.isSwitch
    let found := if before.isEmpty then none else operandAt operand words
    match found with
    | some (value, rest) => consume g bound .none rest { given with operand := value }
    | none =>
      let given := { given with extras := given.extras ++ before.map Prod.fst }
      match words.dropWhile fun w => !w.2.isSwitch with
      | [] => .ok (given, operand)
      | (word, mark) :: rest => do
        let (given, rest) ← performWord g word mark rest given
        consume g bound operand rest given

/-- What a command line gives. -/
def read (g : Grammar) (words : List String) : Except Stop Given := do
  let words ← marked g words
  let (given, operand) ← consume g (words.length + 1) g.operand words ⟨[], [], [], []⟩
  match operand with
  | .one name => g.refuse (.missing name)
  | _ => return given

end DartScaffold.Command
