/-
**Reading a document.**

A document is written in JSON, with three additions: `NaN`, `Infinity` and `-Infinity` are numbers.
A text that is no document is refused with the fault found and the place where it was found, given
by line, column and number of characters before it.  Of two members of one object with the same
name the later one counts, in the place of the earlier.

The reader goes through the characters from left to right; each of its functions takes the number
of characters already read together with the rest of them.  How much there is to read is bounded by
the number of characters, which is what the fuel stands for.  Lists and objects are nested only to a
certain depth; the functions that read them take the depth that is left.

Main definitions:

* `Datum.ReadFault`, `Datum.ReadError` — what is wrong with a text, and where;
* `Datum.parse` — the value that a text is written for.
-/

import DartScaffold.Datum.Basic

set_option relaxedAutoImplicit false
set_option autoImplicit false

namespace DartScaffold.Datum

/-! ### What can be wrong -/

/-- What is wrong with a text that is no document. -/
inductive ReadFault where
  | byteOrderMark
  | expectedValue
  | expectedName
  | expectedColon
  | expectedComma
  | unterminated
  | controlCharacter
  | badEscape
  | badCodePoint
  | extraData
deriving DecidableEq, Repr

/-- The wording of a fault. -/
def ReadFault.message : ReadFault → String
  | .byteOrderMark => "Unexpected UTF-8 BOM (decode using utf-8-sig)"
  | .expectedValue => "Expecting value"
  | .expectedName => "Expecting property name enclosed in double quotes"
  | .expectedColon => "Expecting ':' delimiter"
  | .expectedComma => "Expecting ',' delimiter"
  | .unterminated => "Unterminated string starting at"
  | .controlCharacter => "Invalid control character at"
  | .badEscape => "Invalid \\escape"
  | .badCodePoint => "Invalid \\uXXXX escape"
  | .extraData => "Extra data"

/-- Why a text was refused. -/
inductive ReadError where
  /-- The text is no document: the fault and the number of characters before it. -/
  | malformed (fault : ReadFault) (position : Nat)
  /-- The text goes beyond what is read. -/
  | overLimit (limit : Limit)
deriving DecidableEq, Repr

/-- The line and the column of the character after the first `position` ones, counted from one. -/
def lineAndColumn (source : List Char) (position : Nat) : Nat × Nat :=
  let before := source.take position
  (before.count '\n' + 1, (before.reverse.takeWhile (· != '\n')).length + 1)

/-- The wording of a refusal, for a given source text. -/
def ReadError.message (source : String) : ReadError → String
  | .malformed fault position =>
    let (line, column) := lineAndColumn source.toList position
    fault.message ++ ": line " ++ toString line ++ " column " ++ toString column ++
      " (char " ++ toString position ++ ")"
  | .overLimit limit => limit.message

/-! ### Pieces -/

/-- A reader takes the number of characters read and the rest, and answers with what it read and
where it stopped. -/
abbrev Reader (α : Type) := Nat → List Char → Except ReadError (α × Nat × List Char)

/-- A blank between the pieces of a document. -/
def isSpace (c : Char) : Bool := c == ' ' || c == '\n' || c == '\t' || c == '\r'

/-- Passes over blanks. -/
def skipSpace (pos : Nat) (rest : List Char) : Nat × List Char :=
  (pos + (rest.takeWhile isSpace).length, rest.dropWhile isSpace)

/-- The value of a hexadecimal digit. -/
def hexValue? (c : Char) : Option Nat :=
  if c.isDigit then some (c.toNat - 48)
  else if 'a' ≤ c && c ≤ 'f' then some (c.toNat - 87)
  else if 'A' ≤ c && c ≤ 'F' then some (c.toNat - 55)
  else none

/-- The number that four hexadecimal digits at the beginning of the rest write. -/
def fourHex? (rest : List Char) : Option Nat :=
  match (rest.take 4).mapM hexValue? with
  | some [a, b, c, d] => some (((a * 16 + b) * 16 + c) * 16 + d)
  | _ => none

/-- A low surrogate written as an escape at the beginning of the rest.  At least one more character
has to follow it. -/
def lowSurrogate? (rest : List Char) : Option Nat :=
  match rest with
  | '\\' :: 'u' :: digits =>
    if digits.length ≤ 4 then none
    else (fourHex? digits).filter fun n => decide (0xDC00 ≤ n) && decide (n ≤ 0xDFFF)
  | _ => none

/-- Whether the escape at the beginning of the rest is one of a code point with a bad digit. -/
def badSecondEscape (rest : List Char) : Bool :=
  match rest with
  | '\\' :: 'u' :: digits => decide (4 < digits.length) && (fourHex? digits).isNone
  | _ => false

/-- The character that a letter after a backslash stands for. -/
def escapedLetter? (c : Char) : Option Char :=
  match c with
  | '"' => some '"'
  | '\\' => some '\\'
  | '/' => some '/'
  | 'b' => some '\x08'
  | 'f' => some '\x0c'
  | 'n' => some '\n'
  | 'r' => some '\r'
  | 't' => some '\t'
  | _ => none

/-- The rest of a text after its opening quote, which stood at `start`.  `read` holds the
characters read so far, latest first.

A surrogate that is not one of a pair is no character, and is read as the replacement character.  So
texts that differ only in such surrogates are read as one, also as the names of two members. -/
def readText (start : Nat) : (fuel : Nat) → (read : List Char) → Reader String
  | 0, _, _, _ => .error (.malformed .unterminated start)
  | fuel + 1, read, pos, rest =>
    match rest with
    | [] => .error (.malformed .unterminated start)
    | '"' :: rest => .ok (String.ofList read.reverse, pos + 1, rest)
    | ['\\'] => .error (.malformed .unterminated start)
    | '\\' :: 'u' :: rest =>
      if rest.length ≤ 4 then .error (.malformed .badCodePoint (pos + 1))
      else match fourHex? rest with
        | none => .error (.malformed .badCodePoint (pos + 1))
        | some n =>
          let rest := rest.drop 4
          if 0xD800 ≤ n ∧ n ≤ 0xDBFF then
            if badSecondEscape rest then .error (.malformed .badCodePoint (pos + 7))
            else match lowSurrogate? rest with
              | some low =>
                let c := Char.ofNat (0x10000 + (n - 0xD800) * 0x400 + (low - 0xDC00))
                readText start fuel (c :: read) (pos + 12) (rest.drop 6)
              | none => readText start fuel ('\uFFFD' :: read) (pos + 6) rest
          else if 0xDC00 ≤ n ∧ n ≤ 0xDFFF then
            readText start fuel ('\uFFFD' :: read) (pos + 6) rest
          else readText start fuel (Char.ofNat n :: read) (pos + 6) rest
    | '\\' :: c :: rest =>
      match escapedLetter? c with
      | some e => readText start fuel (e :: read) (pos + 2) rest
      | none => .error (.malformed .badEscape pos)
    | c :: rest =>
      if c.toNat < 0x20 then .error (.malformed .controlCharacter pos)
      else readText start fuel (c :: read) (pos + 1) rest

/-! ### Numbers -/

/-- The whole number written by decimal digits. -/
def digitsValue (digits : List Char) : Nat :=
  digits.foldl (fun n c => n * 10 + (c.toNat - 48)) 0

/-- The digits before the point: a zero, or digits of which the first is not a zero. -/
def wholePart (rest : List Char) : List Char × List Char :=
  match rest with
  | '0' :: rest => (['0'], rest)
  | _ => rest.span Char.isDigit

/-- The digits behind a point, if a point and a digit follow. -/
def fractionPart (rest : List Char) : Option (List Char) × List Char :=
  match rest with
  | '.' :: more =>
    match more.span Char.isDigit with
    | ([], _) => (none, rest)
    | (digits, after) => (some digits, after)
  | _ => (none, rest)

/-- The sign and digits of an exponent, if a complete one follows. -/
def exponentPart (rest : List Char) : Option (Bool × List Char) × List Char :=
  match rest with
  | e :: more =>
    if e == 'e' || e == 'E' then
      let (negative, digits) :=
        match more with
        | '-' :: digits => (true, digits)
        | '+' :: digits => (false, digits)
        | _ => (false, more)
      match digits.span Char.isDigit with
      | ([], _) => (none, rest)
      | (digits, after) => (some (negative, digits), after)
    else (none, rest)
  | [] => (none, rest)

/-- A number, from its sign or first digit on. -/
def readNumber : Reader Datum := fun pos rest =>
  let (negative, unsigned) :=
    match rest with
    | '-' :: unsigned => (true, unsigned)
    | _ => (false, rest)
  let (whole, afterWhole) := wholePart unsigned
  if whole.isEmpty then .error (.malformed .expectedValue pos)
  else
    let (fraction, afterFraction) := fractionPart afterWhole
    let (exponent, after) := exponentPart afterFraction
    let stop := pos + (rest.length - after.length)
    match fraction, exponent with
    | none, none =>
      if maxDigits < whole.length then .error (.overLimit (.digits whole.length))
      else
        let n : Int := digitsValue whole
        .ok (.int (if negative then -n else n), stop, after)
    | _, _ =>
      let digits := whole ++ fraction.getD []
      let shift : Int :=
        match exponent with
        | none => 0
        | some (true, e) => -(digitsValue e : Int)
        | some (false, e) => digitsValue e
      let d := Double.ofDecimal negative (digitsValue digits)
        (shift - (fraction.getD []).length)
      .ok (.double d, stop, after)

/-- The words that stand for values. -/
def literals : List (String × Datum) :=
  [("null", .null), ("true", .bool true), ("false", .bool false), ("NaN", .double .nan),
    ("Infinity", .double (.infinite false)), ("-Infinity", .double (.infinite true))]

/-- A word or a number. -/
def readScalar : Reader Datum := fun pos rest =>
  match literals.find? fun w => w.1.toList.isPrefixOf rest with
  | some (word, d) => .ok (d, pos + word.length, rest.drop word.length)
  | none => readNumber pos rest

/-! ### Values -/

mutual

/-- A value, from its first character on. -/
def readValue : (fuel depth : Nat) → Reader Datum
  | 0, _, pos, _ => .error (.malformed .expectedValue pos)
  | fuel + 1, depth, pos, rest =>
    match rest, depth with
    | [], _ => .error (.malformed .expectedValue pos)
    | '"' :: rest, _ => do
      let (s, pos, rest) ← readText pos (rest.length + 1) [] (pos + 1) rest
      .ok (.text s, pos, rest)
    | '\x7b' :: _, 0 => .error (.overLimit (.depth false))
    | '\x7b' :: rest, depth + 1 =>
      let (pos, rest) := skipSpace (pos + 1) rest
      match rest with
      | '\x7d' :: rest => .ok (.object [], pos + 1, rest)
      | _ => readMembers fuel depth [] pos rest
    | '[' :: _, 0 => .error (.overLimit (.depth true))
    | '[' :: rest, depth + 1 =>
      let (pos, rest) := skipSpace (pos + 1) rest
      match rest with
      | ']' :: rest => .ok (.list [], pos + 1, rest)
      | _ => readItems fuel depth [] pos rest
    | _, _ => readScalar pos rest

/-- The items of a list up to its closing bracket; `items` holds those read, latest first. -/
def readItems : (fuel depth : Nat) → (items : List Datum) → Reader Datum
  | 0, _, _, pos, _ => .error (.malformed .expectedValue pos)
  | fuel + 1, depth, items, pos, rest => do
    let (d, pos, rest) ← readValue fuel depth pos rest
    let (pos, rest) := skipSpace pos rest
    match rest with
    | ']' :: rest => .ok (.list (d :: items).reverse, pos + 1, rest)
    | ',' :: rest =>
      let (pos, rest) := skipSpace (pos + 1) rest
      readItems fuel depth (d :: items) pos rest
    | _ => .error (.malformed .expectedComma pos)

/-- The members of an object up to its closing brace; `members` holds those read. -/
def readMembers : (fuel depth : Nat) → (members : List (String × Datum)) → Reader Datum
  | 0, _, _, pos, _ => .error (.malformed .expectedName pos)
  | fuel + 1, depth, members, pos, rest =>
    match rest with
    | '"' :: rest => do
      let (name, pos, rest) ← readText pos (rest.length + 1) [] (pos + 1) rest
      let (pos, rest) := skipSpace pos rest
      match rest with
      | ':' :: rest =>
        let (pos, rest) := skipSpace (pos + 1) rest
        let (d, pos, rest) ← readValue fuel depth pos rest
        let members := Entries.put name d members
        let (pos, rest) := skipSpace pos rest
        match rest with
        | '\x7d' :: rest => .ok (.object members, pos + 1, rest)
        | ',' :: rest =>
          let (pos, rest) := skipSpace (pos + 1) rest
          readMembers fuel depth members pos rest
        | _ => .error (.malformed .expectedComma pos)
      | _ => .error (.malformed .expectedColon pos)
    | _ => .error (.malformed .expectedName pos)

end

/-- The value that a text is written for. -/
def parse (source : String) : Except ReadError Datum :=
  match source.toList with
  | '\uFEFF' :: _ => .error (.malformed .byteOrderMark 0)
  | cs => do
    let (pos, rest) := skipSpace 0 cs
    let (d, pos, rest) ← readValue (2 * cs.length + 2) maxDepth pos rest
    let (pos, rest) := skipSpace pos rest
    if rest.isEmpty then .ok d else .error (.malformed .extraData pos)

end DartScaffold.Datum
