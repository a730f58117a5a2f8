/-
**What a backend shows.**

A backend keeps models, the tables behind them and routes.  Of a table it shows the columns.  Of a
model it shows what the model answers to each question about it; an answer is a value as the
backend has it, or the fault that asking ended in.  Relations may be declared, or may have to be
found by trying the accessors of the model's class.

Main definitions:

* `Backend.Column`, `Backend.Schema` — columns and tables;
* `Backend.RelationEntry`, `Backend.Declared` — relations as a model declares them;
* `Backend.Answer`, `Backend.Member` — what using a member of a class gives, and the members;
* `Backend.ModelView` — a model as it is shown.

Main results:

* `Backend.Schema.hasTable_text` — the tables are those with an entry.
-/

import DartScaffold.Datum.Use
import DartScaffold.Schema.Model

set_option relaxedAutoImplicit false
set_option autoImplicit false

namespace DartScaffold.Backend

/-! ### Tables -/

/-- A column of a table. -/
structure Column where
  type : Datum
  nullable : Bool
  default : Datum
deriving Repr, Inhabited

/-- The tables, each with its columns in order. -/
structure Schema where
  tables : Entries String (Entries Datum Column)
  /-- Whether capital and small letters are the same in names of tables. -/
  ignoresCase : Bool
deriving Repr, Inhabited

namespace Schema

/-- The tables of a schema whose names are taken as they are written. -/
def ofTables (tables : Entries String (Entries Datum Column)) : Schema := ⟨tables, false⟩

/-- A name of a table as it is compared. -/
def key (schema : Schema) (name : String) : String :=
  if schema.ignoresCase then String.ofList (name.toList.map Char.toLower) else name

/-- The columns of the table of a name, if there is one. -/
def table? (schema : Schema) (name : String) : Option (Entries Datum Column) :=
  (schema.tables.find? fun t => schema.key t.1 == schema.key name).map Prod.snd

/-- The columns of a table; none, if there is no such table. -/
def columns (schema : Schema) (table : Datum) : Entries Datum Column :=
  match table with
  | .text name => (schema.table? name).getD []
  | _ => []

/-- Whether there is a table of a name. -/
def hasTable (schema : Schema) (table : Datum) : Except Misuse Bool :=
  match table with
  | .text name => .ok (schema.table? name).isSome
  | d => if d.hashable then .ok false else .error (.unhashable d.kindName)

theorem hasTable_text (schema : Schema) (name : String) :
    schema.hasTable (.text name) = .ok (schema.table? name).isSome := rfl

end Schema

/-! ### Relations -/

/-- A relation as a model declares it. -/
inductive RelationEntry where
  /-- A finished description. -/
  | ready (relation : Relationship)
  /-- A value that describes it. -/
  | value (d : Datum)
deriving Repr

/-- The relations that a model declares. -/
inductive Declared where
  /-- The model declares nothing. -/
  | nothing
  /-- Something that is no mapping, by the name of its kind. -/
  | other (kind : String)
  | entries (entries : List (String × RelationEntry))
deriving Repr

/-- A relation object, as an accessor may return it.  A key is missing when the object has no
method of that name. -/
structure RelationObject where
  className : String
  kind : Option Datum
  related : Datum
  foreignKeyName : Option Datum
  foreignKey : Option Datum
  localKeyName : Option Datum
  ownerKeyName : Option Datum
deriving Repr, Inhabited

/-! ### Members of a class -/

/-- What using a member of a class gives. -/
inductive Answer where
  | value (d : Datum)
  | relation (object : RelationObject)
  | registry (entries : List (String × RelationEntry))
  | fails (reason : String)
deriving Repr

/-- The arguments that a method takes besides the model. -/
inductive Arguments where
  | none
  | required
  | optional
deriving DecidableEq, Repr

/-- A member of a class. -/
inductive Member where
  | method (arguments : Arguments) (answer : Answer)
  | static (answer : Answer)
  | property (answer : Answer)
  | attribute (answer : Answer)
deriving Repr

/-! ### Models -/

/-- A model as a backend shows it. -/
structure ModelView where
  name : Except Fault Datum
  /-- The name of the class behind the model. -/
  className : String
  table : Except Fault Datum
  keyName : Except Fault Datum
  fillable : Except Fault Datum
  guarded : Except Fault Datum
  hidden : Except Fault Datum
  casts : Except Fault Datum
  dates : Except Fault Datum
  softDelete : Except Fault Datum
  timestamps : Except Fault Datum
  rules : Except Fault Datum
  declared : Except Fault Declared
  /-- The members declared on the class itself, in order. -/
  members : List (String × Member)

/-- The name of a value as a type: a text is a name, and another value has the name of its
kind. -/
def typeNameOf (d : Datum) : String :=
  match d with
  | .text s => s
  | d => "builtins." ++ d.kindName

end DartScaffold.Backend
