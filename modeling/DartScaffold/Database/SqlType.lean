/-
**Column types of databases.**

A model names the type of a column by a generic name or by the name that databases know; a table
keeps the type as it was declared.  Either is reduced to a portable name: types of numbers, dates
and documents have one in common with their kin, and all others are named as they are written.

Main definitions:

* `SqlType` — a type as it is written, with its portable name;
* `SqlType.named?` — the type that a model names;
* `SqlType.declared` — the type that a table was declared with.
-/

import DartScaffold.Datum.Use
import DartScaffold.Text.Alphanumeric
import DartScaffold.Text.LetterCase

set_option relaxedAutoImplicit false
set_option autoImplicit false

namespace DartScaffold

/-- A type of columns. -/
structure SqlType where
  /-- The name that it is written with. -/
  name : String
  /-- The numbers written after the name. -/
  size : List Nat
  /-- The portable name that it shares with its kin. -/
  family : Option String
deriving DecidableEq, Repr, Inhabited

namespace SqlType

/-- The type as it is written. -/
def written (t : SqlType) : String :=
  if t.size.isEmpty then t.name
  else t.name ++ "(" ++ Text.join ", " (t.size.map fun n => (toString n : String)) ++ ")"

/-- The portable name of a type. -/
def portable (t : SqlType) : String := t.family.getD (Text.lower t.written)

/-! ### Types that models name -/

/-- What may be said about a type after its name. -/
inductive Form where
  | plain
  /-- A length. -/
  | sized
  /-- A precision and a scale; the fourth place tells whether the values are exact. -/
  | scaled
  /-- A precision; the second place tells whether the values are exact. -/
  | rounded
  /-- The values that are allowed. -/
  | listed
deriving DecidableEq, Repr

/-- The names of types, each with the name that it is written with, its form and its family. -/
def names : List (String × String × Form × Option String) := [
  ("Integer", "INTEGER", .plain, some "integer"), ("INTEGER", "INTEGER", .plain, some "integer"),
  ("INT", "INTEGER", .plain, some "integer"), ("BigInteger", "BIGINT", .plain, some "integer"),
  ("BIGINT", "BIGINT", .plain, some "integer"),
  ("SmallInteger", "SMALLINT", .plain, some "integer"),
  ("SMALLINT", "SMALLINT", .plain, some "integer"), ("Boolean", "BOOLEAN", .plain, some "boolean"),
  ("BOOLEAN", "BOOLEAN", .plain, some "boolean"), ("Float", "FLOAT", .rounded, some "float"),
  ("FLOAT", "FLOAT", .rounded, some "float"), ("REAL", "REAL", .rounded, some "float"),
  ("Double", "DOUBLE", .rounded, some "float"), ("DOUBLE", "DOUBLE", .rounded, some "float"),
  ("DOUBLE_PRECISION", "DOUBLE PRECISION", .rounded, some "float"),
  ("Numeric", "NUMERIC", .scaled, some "decimal"), ("NUMERIC", "NUMERIC", .scaled, some "decimal"),
  ("DECIMAL", "DECIMAL", .scaled, some "decimal"),
  ("DateTime", "DATETIME", .plain, some "datetime"),
  ("DATETIME", "DATETIME", .plain, some "datetime"),
  ("TIMESTAMP", "TIMESTAMP", .plain, some "datetime"), ("Interval", "DATETIME", .plain, none),
  ("Date", "DATE", .plain, some "date"), ("DATE", "DATE", .plain, some "date"),
  ("Time", "TIME", .plain, none), ("TIME", "TIME", .plain, none),
  ("JSON", "JSON", .plain, some "json"), ("ARRAY", "ARRAY", .plain, some "json"),
  ("String", "VARCHAR", .sized, none), ("VARCHAR", "VARCHAR", .sized, none),
  ("Unicode", "VARCHAR", .sized, none), ("Text", "TEXT", .sized, none),
  ("TEXT", "TEXT", .sized, none), ("UnicodeText", "TEXT", .sized, none),
  ("CHAR", "CHAR", .sized, none), ("NCHAR", "NCHAR", .sized, none),
  ("NVARCHAR", "NVARCHAR", .sized, none), ("CLOB", "CLOB", .plain, none),
  ("Enum", "VARCHAR", .listed, none), ("LargeBinary", "BLOB", .plain, none),
  ("BLOB", "BLOB", .plain, none), ("PickleType", "BLOB", .plain, none),
  ("BINARY", "BINARY", .sized, none), ("VARBINARY", "VARBINARY", .sized, none),
  ("UUID", "UUID", .plain, none)]

/-- A positive whole number as a size; anything else is none. -/
def sizeOf (d : Datum) : List Nat :=
  match d with
  | .int n => if 0 < n then [n.toNat] else []
  | _ => []

/-- The numbers that follow the name of a type. -/
def sizeFor (form : Form) (arguments : List Datum) : List Nat :=
  match form, arguments with
  | .plain, _ => []
  | .rounded, _ => []
  | .sized, d :: _ => sizeOf d
  | .scaled, .int p :: .int s :: _ => [p.toNat, s.toNat]
  | .scaled, .int p :: _ => [p.toNat]
  | .listed, values => sizeOf (.int ((values.map fun d => d.display.length).foldl max 0))
  | _, [] => []
  | .scaled, _ => []

/-- The family of a number type whose values are said to be exact, or not. -/
def familyFor (form : Form) (arguments : List Datum) (family : Option String) : Option String :=
  let isExact (place : Nat) (usual : Bool) : Bool :=
    ((arguments[place]?).map Datum.truthy).getD usual
  match form with
  | .scaled => some (if isExact 3 true then "decimal" else "float")
  | .rounded => some (if isExact 1 false then "decimal" else "float")
  | _ => family

/-- The type of a name, if there is one of that name. -/
def named? (name : String) (arguments : List Datum) : Option SqlType :=
  if name = "Uuid" then some ⟨"CHAR", [32], none⟩
  else if name = "NullType" then some ⟨"NULL", [], none⟩
  else (names.lookup name).map fun (written, form, family) =>
    ⟨written, sizeFor form arguments, familyFor form arguments family⟩

/-! ### Types of declared columns -/

/-- The declared names that are known, each with its name among types. -/
def declaredNames : List (String × String) := [
  ("BIGINT", "BIGINT"), ("BLOB", "BLOB"), ("BOOL", "BOOLEAN"), ("BOOLEAN", "BOOLEAN"),
  ("CHAR", "CHAR"), ("DATE", "DATE"), ("DATE_CHAR", "DATE"), ("DATETIME", "DATETIME"),
  ("DATETIME_CHAR", "DATETIME"), ("DOUBLE", "DOUBLE"), ("DOUBLE_PRECISION", "DOUBLE_PRECISION"),
  ("DECIMAL", "DECIMAL"), ("FLOAT", "FLOAT"), ("INT", "INTEGER"), ("INTEGER", "INTEGER"),
  ("JSON", "JSON"), ("NUMERIC", "NUMERIC"), ("REAL", "REAL"), ("SMALLINT", "SMALLINT"),
  ("TEXT", "TEXT"), ("TIME", "TIME"), ("TIME_CHAR", "TIME"), ("TIMESTAMP", "TIMESTAMP"),
  ("VARCHAR", "VARCHAR"), ("NVARCHAR", "NVARCHAR")]

/-- The name among types of a declared name.  One that is not known counts by what it contains. -/
def nameOfDeclared (declared : String) : String :=
  let has (part : String) : Bool := Text.contains part declared
  match declaredNames.lookup declared with
  | some name => name
  | none =>
    if has "INT" then "INTEGER"
    else if has "CHAR" || has "CLOB" || has "TEXT" then "TEXT"
    else if has "BLOB" || declared = "" then "NullType"
    else if has "REAL" || has "FLOA" || has "DOUB" then "REAL"
    else "NUMERIC"

/-- Whether a character may stand in a declared name. -/
def isNameChar (c : Char) : Bool := Text.isWordChar c || c == ' '

/-- The runs of digits in a text as numbers. -/
def numbersIn (cs : List Char) : List Nat :=
  ((cs.map fun c => if c.isDigit then c else ' ').splitOn ' ').filterMap fun run =>
    if run.isEmpty then none
    else some (run.foldl (fun n c => 10 * n + (c.toNat - '0'.toNat)) 0)

/-- What stands between parentheses at the start of a text, if they are closed. -/
def parenthesized (cs : List Char) : List Char :=
  match cs with
  | '(' :: rest => if rest.contains ')' then rest.takeWhile (· != ')') else []
  | _ => []

/-- The type that a column was declared with. -/
def declared (text : String) : SqlType :=
  let cs := (Text.upper text).toList
  let name := nameOfDeclared (String.ofList (cs.takeWhile isNameChar))
  let size := numbersIn (parenthesized (cs.dropWhile isNameChar))
  (named? name (size.map fun (n : Nat) => .int n)).getD ⟨"NULL", [], none⟩

end SqlType

end DartScaffold
