/-
**Writing a document.**

A document is written in JSON, either over several lines with each level indented by two spaces,
or on one line in ASCII.

Main definitions:

* `Datum.pretty` — a document over several lines, in which characters beyond ASCII are kept;
* `Datum.compact` — a document on one line in ASCII.
-/

import DartScaffold.Datum.Display

set_option relaxedAutoImplicit false
set_option autoImplicit false

namespace DartScaffold.Datum

/-- A character between double quotes: the quote, the backslash and the control characters are
escaped. -/
def escapeChar (c : Char) : List Char :=
  if c == '"' || c == '\\' then ['\\', c]
  else if c == '\n' then ['\\', 'n']
  else if c == '\r' then ['\\', 'r']
  else if c == '\t' then ['\\', 't']
  else if c == '\x08' then ['\\', 'b']
  else if c == '\x0c' then ['\\', 'f']
  else if c.toNat < 0x20 then '\\' :: 'u' :: Text.hexDigits 4 c.toNat
  else [c]

/-- The same in ASCII: any other character is written by its code units. -/
def escapeCharAscii (c : Char) : List Char :=
  if c.toNat < 0x7f then escapeChar c
  else if c.toNat < 0x10000 then '\\' :: 'u' :: Text.hexDigits 4 c.toNat
  else
    let n := c.toNat - 0x10000
    ('\\' :: 'u' :: Text.hexDigits 4 (0xD800 + n / 0x400)) ++
      ('\\' :: 'u' :: Text.hexDigits 4 (0xDC00 + n % 0x400))

/-- A text between double quotes. -/
def writeText (escape : Char → List Char) (s : String) : String :=
  String.ofList ('"' :: (s.toList.flatMap escape ++ ['"']))

/-- A value that is neither list nor object. -/
def writeScalar (escape : Char → List Char) : Datum → String
  | .null => "null"
  | .bool b => if b then "true" else "false"
  | .int i => toString i
  | .double d => Double.textWith "NaN" "Infinity" d
  | .text s => writeText escape s
  | .list _ => "[]"
  | .object _ => "\x7b\x7d"

/-- A line break with the indentation of a level. -/
def newLine (level : Nat) : String := "\n" ++ Text.spaces (2 * level)

mutual

/-- A value over several lines, where it stands at a given level. -/
def prettyAt (level : Nat) : Datum → String
  | .list (d :: rest) =>
    "[" ++ newLine (level + 1) ++
      Text.join ("," ++ newLine (level + 1)) (prettyItems (level + 1) (d :: rest)) ++
      newLine level ++ "]"
  | .object (m :: rest) =>
    "\x7b" ++ newLine (level + 1) ++
      Text.join ("," ++ newLine (level + 1)) (prettyMembers (level + 1) (m :: rest)) ++
      newLine level ++ "\x7d"
  | d => writeScalar escapeChar d

/-- The items of a list at a given level. -/
def prettyItems (level : Nat) : List Datum → List String
  | [] => []
  | d :: rest => prettyAt level d :: prettyItems level rest

/-- The members of an object at a given level. -/
def prettyMembers (level : Nat) : List (String × Datum) → List String
  | [] => []
  | (k, d) :: rest =>
    (writeText escapeChar k ++ ": " ++ prettyAt level d) :: prettyMembers level rest

end

/-- A document over several lines. -/
def pretty (d : Datum) : String := prettyAt 0 d

mutual

/-- A document on one line in ASCII. -/
def compact : Datum → String
  | .list items => "[" ++ Text.join "," (compactItems items) ++ "]"
  | .object members => "\x7b" ++ Text.join "," (compactMembers members) ++ "\x7d"
  | d => writeScalar escapeCharAscii d

/-- The items of a list. -/
def compactItems : List Datum → List String
  | [] => []
  | d :: rest => compact d :: compactItems rest

/-- The members of an object. -/
def compactMembers : List (String × Datum) → List String
  | [] => []
  | (k, d) :: rest => (writeText escapeCharAscii k ++ ":" ++ compact d) :: compactMembers rest

end

end DartScaffold.Datum
