/-
**The types of columns.**

A database has many column types, and a client few.  A type name is looked up without regard to
case, to blanks around it and to a length or precision behind it; a name that is not known stands
for a text.

Main definitions:

* `ColumnType` — the types that a client tells apart;
* `ColumnType.ofSource` — the client's type of a database type.
-/

import DartScaffold.Datum.Display
import DartScaffold.Text.LetterCase

set_option relaxedAutoImplicit false
set_option autoImplicit false

namespace DartScaffold

/-- The types of values that a client tells apart. -/
inductive ColumnType where
  | int
  | double
  | bool
  | datetime
  | json
  | string
deriving DecidableEq, Repr, Inhabited

namespace ColumnType

/-- The name of a type. -/
def name : ColumnType → String
  | .int => "int"
  | .double => "double"
  | .bool => "bool"
  | .datetime => "datetime"
  | .json => "json"
  | .string => "string"

/-- All types. -/
def all : List ColumnType := [.int, .double, .bool, .datetime, .json, .string]

/-- The type with a given name. -/
def ofName? (name : String) : Option ColumnType := all.find? (·.name == name)

/-- The database types that are not kept as texts. -/
def sources : List (String × ColumnType) := [
  ("integer", .int), ("bigint", .int), ("smallint", .int), ("tinyint", .int),
  ("decimal", .double), ("float", .double), ("double", .double), ("real", .double),
  ("boolean", .bool), ("date", .datetime), ("datetime", .datetime), ("timestamp", .datetime),
  ("json", .json), ("jsonb", .json)]

/-- The name of a database type as it is looked up: in small letters, without blanks around it
and without what an opening bracket begins. -/
def lookupName (source : String) : String :=
  let lowered := Text.lower (Text.strip source)
  Text.strip (String.ofList (lowered.toList.takeWhile (· != '(')))

/-- The client's type of a database type. -/
def ofSource (source : Datum) : ColumnType :=
  if source.truthy then (sources.lookup (lookupName source.display)).getD .string else .string

end ColumnType

end DartScaffold
