/-
**Tables of a database.**

A database keeps for each column of a table its name, the type as it was declared, whether it may be
null, and the text of its default.  Names of tables are compared without regard to capital and small
letters.

Main definitions:

* `Database.TableColumn`, `Database.Tables` — what a database keeps;
* `Database.schema` — the tables as a backend shows them.
-/

import DartScaffold.Backend.View
import DartScaffold.Database.SqlType

set_option relaxedAutoImplicit false
set_option autoImplicit false

namespace DartScaffold.Database

/-- A column as a database keeps it. -/
structure TableColumn where
  name : String
  /-- The type as it was declared. -/
  type : String
  nullable : Bool
  /-- The text of the default. -/
  default : Option String
deriving DecidableEq, Repr, Inhabited

/-- The tables of a database. -/
abbrev Tables := Entries String (List TableColumn)

/-- A column as a backend shows it. -/
def TableColumn.column (c : TableColumn) : Backend.Column where
  type := .text (SqlType.declared c.type).portable
  nullable := c.nullable
  default := (c.default.map .text).getD .null

/-- The tables as a backend shows them. -/
def schema (tables : Tables) : Backend.Schema where
  tables := tables.map fun (name, columns) => (name, columns.map fun c => (.text c.name, c.column))
  ignoresCase := true

end DartScaffold.Database
