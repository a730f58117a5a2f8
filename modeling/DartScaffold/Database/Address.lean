/-
**Addresses of databases.**

A database is addressed by the name of its dialect, perhaps with a driver, a host, and a name.  Only
databases that are files, or are kept in memory, can be opened here; for the others no driver is at
hand.

Main definitions:

* `Database.Address`, `Database.Address.ofString` — an address and how it is read;
* `Database.openAt` — the tables at an address.
-/

import DartScaffold.Database.Table
import DartScaffold.Fault
import DartScaffold.Text.Split

set_option relaxedAutoImplicit false
set_option autoImplicit false

namespace DartScaffold.Database

/-! ### Addresses -/

/-- Where a database is kept. -/
inductive Address where
  | memory
  | file (path : Path)
deriving Repr

/-- The dialects whose databases are on another host, each with its drivers. -/
def remoteDrivers : List (String × List String) := [
  ("postgresql", ["psycopg", "psycopg2", "psycopg2cffi", "asyncpg", "pg8000", "psycopg_async"]),
  ("mysql", ["mysqldb", "mysqlconnector", "pymysql", "cymysql", "pyodbc", "aiomysql", "asyncmy"]),
  ("mariadb", ["mysqldb", "mysqlconnector", "mariadbconnector", "pymysql", "cymysql", "pyodbc",
    "aiomysql", "asyncmy"]),
  ("oracle", ["oracledb", "cx_oracle", "oracledb_async"]),
  ("mssql", ["pyodbc", "pymssql", "aioodbc"]), ("sqlite", ["aiosqlite", "pysqlcipher"])]

/-- The dialects whose databases are files. -/
def localDialects : List String := ["sqlite", "sqlite+pysqlite", "sqlite+pysqlite_numeric"]

/-- The name of a dialect at the start of an address, and what follows it. -/
def dialectOf (url : String) : Option (String × String) :=
  match Text.cut? "://" url with
  | some (name, rest) =>
    if name ≠ "" ∧ name.toList.all fun c => Text.isWordChar c || c == '+' then some (name, rest)
    else none
  | none => none

/-- The port in the part of an address before its first slash. -/
def portOf (rest : String) : String :=
  let authority := rest.toList.takeWhile fun c => c ≠ '/' ∧ c ≠ '?'
  let host := (authority.reverse.takeWhile (· ≠ '@')).reverse
  String.ofList ((host.dropWhile (· ≠ ':')).drop 1)

/-- The address that follows the name of a dialect whose databases are files. -/
def addressOf (url rest : String) : Except Fault Address :=
  match rest.toList with
  | [] => .ok .memory
  | '?' :: _ => .ok .memory
  | '/' :: path =>
    let path := String.ofList (path.takeWhile (· ≠ '?'))
    if path = "" ∨ path = ":memory:" then .ok .memory else .ok (.file (Path.ofString path))
  | _ =>
    .error (.schema (.noEngine url ("Invalid SQLite URL: " ++ url ++
      "\nValid SQLite URL forms are sqlite:///:memory: or sqlite:////absolute/path/to/file.db")))

/-- The address that a text is. -/
def Address.ofString (url : String) : Except Fault Address :=
  match dialectOf url with
  | none => .error (.schema (.noEngine url "Could not parse SQLAlchemy URL from given URL string"))
  | some (name, rest) =>
    let port := portOf rest
    if let .error m := if port = "" then .ok 0 else Datum.numeral port then
      .error (.schema (.noEngine url m.message))
    else if localDialects.contains name then addressOf url rest
    else
      let (dialect, driver) := (Text.cut? "+" name).getD (name, "")
      match remoteDrivers.lookup dialect with
      | some drivers =>
        if (driver = "" ∧ dialect ≠ "sqlite") ∨ drivers.contains driver then
          .error (.noModule ("No module named " ++ Text.quoted (drivers.headD driver)))
        else .error (unknown url name)
      | none => .error (unknown url name)
where
  /-- The fault of a dialect that is not known. -/
  unknown (url name : String) : Fault :=
    .schema (.noEngine url ("Can't load plugin: sqlalchemy.dialects:" ++
      Text.join "." (Text.split '+' name)))

/-! ### Opening -/

/-- The tables at an address, where some files are known to be databases.  A file that is not there
is made when it is opened. -/
def openAt (tree : FileTree) (known : Entries String Tables) (address : Address) :
    Except SchemaFault Tables :=
  match address with
  | .memory => .ok []
  | .file path =>
    match known.lookup path.text with
    | some tables => .ok tables
    | none =>
      match tree.writable path, tree.read path with
      | .error _, _ => .error .unopened
      | .ok _, .ok content => if content.length = 0 then .ok [] else .error (.notDatabase "")
      | .ok _, .error _ => .ok []

end DartScaffold.Database
