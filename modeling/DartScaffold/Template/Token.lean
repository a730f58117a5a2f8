/-
**The words of a written template.**

What stands in a gap or tag of a written template is made of words: names, numbers, texts in quotes,
and symbols, with blanks between them.  Brackets come in pairs, and the end of a gap or tag counts
only outside of them.  Where the characters make no word, reading fails, but only when it gets
there; so a fault is itself the last word.

Main definitions:

* `Template.Flaw` — why a text is no template;
* `Template.Token`, `Template.Word` — a word, and where it stands;
* `Template.number?`, `Template.quotedText?` — numbers and texts;
* `Template.wordsUntil` — the words of a gap or tag.
-/

import DartScaffold.Datum.Parser
import DartScaffold.Fault
import DartScaffold.Text.Identifier
import DartScaffold.Text.Quoted
import DartScaffold.Text.Split

set_option relaxedAutoImplicit false
set_option autoImplicit false

namespace DartScaffold.Template

/-- Why a text is no template. -/
inductive Flaw where
  /-- It is not of the right form. -/
  | form (reason : String)
  /-- It is of the right form, but says something that cannot be. -/
  | senseless (reason : String)
  /-- It holds a value that is of no use. -/
  | misuse (fault : Misuse)
deriving DecidableEq, Repr

/-- A word of a gap or tag. -/
inductive Token where
  | name (s : String)
  | text (s : String)
  | int (n : Nat)
  | double (d : Double)
  | symbol (s : String)
  /-- The end of the gap or tag, or of everything, as messages speak of it. -/
  | stop (what : String)
  /-- Here the characters make no word. -/
  | fault (flaw : Flaw)
deriving DecidableEq, Repr

/-- A word as messages speak of it. -/
def Token.describe : Token → String
  | .name s => s
  | .text _ => "string"
  | .int _ => "integer"
  | .double _ => "float"
  | .symbol s => s
  | .stop what => what
  | .fault _ => ""

/-- A word and the line that it begins on. -/
structure Word where
  token : Token
  line : Nat
deriving DecidableEq, Repr

/-! ### Numbers -/

/-- The digits at the start of the characters, and what is behind them.  One underscore may stand
before a digit that is not the first. -/
def digitsOf (digit : Char → Option Nat) : (behindDigit : Bool) → List Char → List Nat × List Char
  | true, '_' :: c :: rest =>
    match digit c with
    | none => ([], '_' :: c :: rest)
    | some d =>
      let (ds, after) := digitsOf digit true rest
      (d :: ds, after)
  | _, c :: rest =>
    match digit c with
    | none => ([], c :: rest)
    | some d =>
      let (ds, after) := digitsOf digit true rest
      (d :: ds, after)
  | _, [] => ([], [])

/-- The number that digits write in a base. -/
def numberOf (base : Nat) (digits : List Nat) : Nat := digits.foldl (fun n d => n * base + d) 0

/-- The value of a digit below a base. -/
def digitBelow (base : Nat) (c : Char) : Option Nat :=
  let letter? : Option Nat :=
    if 'a' ≤ c ∧ c ≤ 'f' then some (c.toNat - 'a'.toNat + 10)
    else if 'A' ≤ c ∧ c ≤ 'F' then some (c.toNat - 'A'.toNat + 10)
    else none
  ((Text.digitValue? c).or letter?).filter (· < base)

/-- The base that a letter behind a zero stands for. -/
def baseOf? : Char → Option Nat
  | 'b' | 'B' => some 2
  | 'o' | 'O' => some 8
  | 'x' | 'X' => some 16
  | _ => none

/-- A whole number as a word, unless it has too many digits. -/
def decimalToken (digits : List Nat) : Token :=
  if Datum.maxDigits < digits.length then .fault (.misuse (.hugeNumeral digits.length))
  else .int (numberOf 10 digits)

/-- The whole number at the start of the characters, and what is behind it.  Its first digit is
zero only if all are, or if it has another base than ten. -/
def int? (cs : List Char) : Option (Token × List Char) :=
  let inBase : Option (Token × List Char) :=
    match cs with
    | '0' :: mark :: rest => do
      let base ← baseOf? mark
      let (digits, after) := digitsOf (digitBelow base) true rest
      if digits.isEmpty then none else some (.int (numberOf base digits), after)
    | _ => none
  inBase.or <|
    match cs with
    | c :: rest =>
      if c = '0' then some (.int 0, (digitsOf (digitBelow 1) true rest).2)
      else if '1' ≤ c ∧ c ≤ '9' then
        let (digits, after) := digitsOf Text.digitValue? true rest
        some (decimalToken ((c.toNat - '0'.toNat) :: digits), after)
      else none
    | [] => none

/-- The power of ten at the start of the characters, and what is behind it. -/
def exponent? : List Char → Option (Int × List Char)
  | e :: rest =>
    if e = 'e' ∨ e = 'E' then
      let (negative, rest) :=
        match rest with
        | '-' :: rest => (true, rest)
        | '+' :: rest => (false, rest)
        | rest => (false, rest)
      let (digits, after) := digitsOf Text.digitValue? false rest
      let size : Int := numberOf 10 digits
      if digits.isEmpty then none else some (if negative then -size else size, after)
    else none
  | [] => none

/-- The number with a point or a power of ten at the start of the characters, and what is behind
it. -/
def double? (cs : List Char) : Option (Token × List Char) :=
  let (whole, rest) := digitsOf Text.digitValue? false cs
  let (fraction, rest) :=
    match rest with
    | '.' :: behind =>
      let (digits, after) := digitsOf Text.digitValue? false behind
      if digits.isEmpty then ([], rest) else (digits, after)
    | rest => ([], rest)
  let digits := numberOf 10 (whole ++ fraction)
  if whole.isEmpty then none
  else
    match exponent? rest with
    | some (e, after) =>
      some (.double (.ofDecimal false digits (e - (fraction.length : Int))), after)
    | none =>
      if fraction.isEmpty then none
      else some (.double (.ofDecimal false digits (-(fraction.length : Int))), rest)

/-- The number at the start of the characters, and what is behind it.  Right behind a point a
number is whole. -/
def number? (behindPoint : Bool) (cs : List Char) : Option (Token × List Char) :=
  (if behindPoint then none else double? cs).or (int? cs)

/-! ### Texts in quotes -/

/-- The characters up to the quote `mark` that are not its own, and those behind it.  What follows
a backslash ends no text. -/
def quotedUntil (mark : Char) : List Char → Option (List Char × List Char)
  | [] => none
  | '\\' :: c :: rest => (quotedUntil mark rest).map fun (s, after) => ('\\' :: c :: s, after)
  | c :: rest =>
    if c = mark then some ([], rest)
    else (quotedUntil mark rest).map fun (s, after) => (c :: s, after)

/-- A character beyond ASCII as it is escaped. -/
def escaped (c : Char) : List Char :=
  if c.toNat < 0x80 then [c]
  else if c.toNat < 0x100 then '\\' :: 'x' :: Text.hexDigits 2 c.toNat
  else if c.toNat < 0x10000 then '\\' :: 'u' :: Text.hexDigits 4 c.toNat
  else '\\' :: 'U' :: Text.hexDigits 8 c.toNat

/-- The character that a letter behind a backslash stands for. -/
def escapeOf? : Char → Option Char
  | 'a' => some '\x07'
  | 'b' => some '\x08'
  | 'f' => some '\x0c'
  | 'n' => some '\n'
  | 'r' => some '\r'
  | 't' => some '\t'
  | 'v' => some '\x0b'
  | '\\' => some '\\'
  | '\'' => some '\''
  | '"' => some '"'
  | _ => none

/-- How many hexadecimal digits follow a letter behind a backslash. -/
def hexWidth? : Char → Option Nat
  | 'x' => some 2
  | 'u' => some 4
  | 'U' => some 8
  | _ => none

/-- The characters that an escaped text stands for; their number bounds the steps. -/
def unescaped : (bound : Nat) → List Char → Except Flaw (List Char)
  | 0, _ | _, [] => .ok []
  | bound + 1, '\\' :: mark :: rest => do
    match escapeOf? mark, hexWidth? mark with
    | some c, _ => return c :: (← unescaped bound rest)
    | none, some width =>
      let digits := (rest.take width).filterMap (digitBelow 16)
      let code := numberOf 16 digits
      if digits.length < width then
        throw (.form ("truncated \\" ++ String.ofList (mark :: List.replicate width 'X') ++
          " escape"))
      else if 0x110000 ≤ code then throw (.form "illegal Unicode character")
      else return Char.ofNat code :: (← unescaped bound (rest.drop width))
    | none, none =>
      let octal := ((mark :: rest).take 3).takeWhile fun c => (digitBelow 8 c).isSome
      if mark = '\n' then unescaped bound rest
      else if mark = 'N' then throw (.form "malformed \\N character escape")
      else if octal.isEmpty then return '\\' :: mark :: (← unescaped bound rest)
      else
        let code := numberOf 8 (octal.filterMap (digitBelow 8))
        return Char.ofNat code :: (← unescaped bound ((mark :: rest).drop octal.length))
  | bound + 1, c :: rest => do return c :: (← unescaped bound rest)

/-- The text behind the quote `mark`, and what is behind it. -/
def quotedText? (mark : Char) (cs : List Char) : Option (Token × List Char) := do
  let (s, after) ← quotedUntil mark cs
  let s := s.flatMap escaped
  match unescaped s.length s with
  | .ok s => return (.text (String.ofList s), after)
  | .error flaw => return (.fault flaw, after)

/-! ### Words -/

/-- The symbols of two characters. -/
def longSymbols : List (List Char) :=
  [['=', '='], ['!', '='], ['>', '='], ['<', '='], ['/', '/'], ['*', '*']]

/-- The symbols of one character. -/
def shortSymbols : List Char :=
  ['+', '-', '/', '*', '%', '~', '[', ']', '(', ')', '\x7b', '\x7d', '<', '>', '=', '.', ':', '|',
    ',', ';']

/-- A name as a word. -/
def nameToken (s : String) : Token :=
  if Text.isIdentifier s then .name s else .fault (.form "Invalid character in identifier")

/-- The word at the start of the characters, which is no blank, and what is behind it. -/
def word? (behindPoint : Bool) (cs : List Char) : Option (Token × List Char) :=
  match number? behindPoint cs, cs with
  | some found, _ => some found
  | none, [] => none
  | none, c :: rest =>
    if Text.isWordChar c then
      some (nameToken (String.ofList (cs.takeWhile Text.isWordChar)), cs.dropWhile Text.isWordChar)
    else if c = '\'' ∨ c = '"' then quotedText? c rest
    else if longSymbols.contains (cs.take 2) then
      some (.symbol (String.ofList (cs.take 2)), cs.drop 2)
    else if shortSymbols.contains c then some (.symbol (String.singleton c), rest)
    else none

/-- The bracket that closes an opening one. -/
def closingOf? : String → Option String
  | "(" => some ")"
  | "[" => some "]"
  | "\x7b" => some "\x7d"
  | _ => none

/-- The brackets that close the open ones, behind a word; the innermost is the first. -/
def openedBehind (opened : List String) : Token → Except Flaw (List String)
  | .symbol s =>
    match closingOf? s with
    | some closer => .ok (closer :: opened)
    | none =>
      if s = ")" ∨ s = "]" ∨ s = "\x7d" then
        match opened with
        | [] => .error (.form ("unexpected '" ++ s ++ "'"))
        | closer :: outer =>
          if closer = s then .ok outer
          else .error (.form ("unexpected '" ++ s ++ "', expected '" ++ closer ++ "'"))
      else .ok opened
  | _ => .ok opened

/-! ### Gaps and tags -/

/-- How a gap, tag or remark ends. -/
inductive Ending where
  | plain
  | trimming
  | keeping
deriving DecidableEq, Repr

/-- What a gap or tag is closed by, and how messages speak of it. -/
structure Closing where
  mark : List Char
  what : String
deriving Repr

/-- The end of a gap. -/
def gapClosing : Closing := ⟨['\x7d', '\x7d'], "end of print statement"⟩

/-- The end of a tag. -/
def tagClosing : Closing := ⟨['%', '\x7d'], "end of statement block"⟩

/-- The end of everything, as messages speak of it. -/
def endOfTemplate : String := "end of template"

/-- How the characters begin with an end, and what is behind it. -/
def ending? (mark cs : List Char) : Option (Ending × List Char) :=
  if ('-' :: mark).isPrefixOf cs then some (.trimming, cs.drop (mark.length + 1))
  else if mark.isPrefixOf cs then some (.plain, cs.drop mark.length)
  else if mark ≠ gapClosing.mark ∧ ('+' :: mark).isPrefixOf cs then
    some (.keeping, cs.drop (mark.length + 1))
  else none

/-- The number of characters and of line breaks of a written template. -/
structure Extent where
  size : Nat
  breaks : Nat
deriving Repr

/-- The number of the line that the last characters begin on. -/
def Extent.lineOf (x : Extent) (cs : List Char) : Nat := x.breaks + 1 - cs.count '\n'

/-- The words up to the end of a gap or tag, and how it ends and what is behind it; nothing, if it
does not end.  The end counts only outside of brackets.  The number of characters bounds the number
of words. -/
def wordsUntil (x : Extent) (closing : Closing) :
    (bound : Nat) → (behindPoint : Bool) → (opened : List String) → List Char →
    List Word × Option (Ending × List Char)
  | 0, _, _, cs => ([⟨.stop endOfTemplate, x.lineOf cs⟩], none)
  | _, _, _, [] => ([⟨.stop endOfTemplate, x.lineOf []⟩], none)
  | bound + 1, behindPoint, opened, c :: rest =>
    let line := x.lineOf (c :: rest)
    match if opened.isEmpty then ending? closing.mark (c :: rest) else none with
    | some found => ([⟨.stop closing.what, line⟩], some found)
    | none =>
      if Text.isBlank c then
        wordsUntil x closing bound false opened (rest.dropWhile Text.isBlank)
      else
        match word? behindPoint (c :: rest) with
        | none =>
          let place : Nat := x.size - (rest.length + 1)
          ([⟨.fault (.form ("unexpected char " ++ Text.quoted (String.singleton c) ++ " at " ++
            toString place)), line⟩], none)
        | some (.fault flaw, _) => ([⟨.fault flaw, line⟩], none)
        | some (token, after) =>
          match openedBehind opened token with
          | .error flaw => ([⟨.fault flaw, line⟩], none)
          | .ok opened =>
            let (words, close) := wordsUntil x closing bound (token == .symbol ".") opened after
            (⟨token, line⟩ :: words, close)

end DartScaffold.Template
