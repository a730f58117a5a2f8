/-
**What can go wrong.**

A run fails for a reason that belongs to one of its parts: the settings, a template, the registry
of generators, the analysis of a model, a backend description, a command, or a file.  Documents
are read as they are given, so a value may also turn out to be of the wrong kind at the place
where it is used.  Each part has its own type of faults; `Fault` is their sum.  A fault is a cause
with the values it speaks of, and its wording is a function of it.

Main definitions:

* `Misuse` — a value of the wrong kind was used;
* `SettingsFault`, `TemplateFault`, `RegistryFault`, `AnalysisFault`, `DescriptionFault`,
  `SourceFault`, `CommandFault` — the faults of the parts;
* `Fault` — any of them;
* `Fault.message` — the wording.
-/

import DartScaffold.FileTree

set_option relaxedAutoImplicit false
set_option autoImplicit false

namespace DartScaffold

/-! ### Values of the wrong kind -/

/-- A value was used in a way that its kind does not allow. -/
inductive Misuse where
  /-- The kind has no such operation. -/
  | lacksOperation (kind operation : String)
  /-- The kind has no items to go through. -/
  | notIterable (kind : String)
  /-- The kind holds nothing that could be looked for in it. -/
  | notContainer (kind : String)
  /-- The kind has no members to be taken by name or number. -/
  | notIndexed (kind : String)
  /-- A list or a text was asked for a member by name. -/
  | namedIndex (kind : String)
  /-- An object has no member of this name. -/
  | missingMember (name : String)
  /-- A list has no item of this number. -/
  | noItem (number : Int)
  /-- The kind cannot be a member of a set. -/
  | unhashable (kind : String)
  /-- Two kinds have no order between them. -/
  | unordered (left right : String)
  /-- The kind cannot be a path. -/
  | notPath (kind : String)
  /-- The kind cannot follow a path. -/
  | notPathPart (kind : String)
  /-- The kind cannot be read as a whole number. -/
  | notNumber (kind : String)
  /-- The text does not write a whole number. -/
  | notNumeral (text : String)
  /-- The numeral goes beyond what is read. -/
  | hugeNumeral (digits : Nat)
  /-- The number is not finite. -/
  | notFinite (isInfinite : Bool)
  /-- An item that should be a pair has another number of parts. -/
  | badPair (length : Nat)
  /-- Any other misuse, by its wording. -/
  | unfit (reason : String)
  /-- Text was looked for in a text, but a value of this kind was given. -/
  | notSubtext (kind : String)
deriving DecidableEq, Repr

/-- The wording of a misuse. -/
def Misuse.message : Misuse → String
  | .lacksOperation kind operation =>
    "'" ++ kind ++ "' object has no attribute '" ++ operation ++ "'"
  | .notIterable kind => "'" ++ kind ++ "' object is not iterable"
  | .notContainer kind => "argument of type '" ++ kind ++ "' is not iterable"
  | .notIndexed kind => "'" ++ kind ++ "' object is not subscriptable"
  | .namedIndex kind =>
    if kind = "str" then "string indices must be integers, not 'str'"
    else kind ++ " indices must be integers or slices, not str"
  | .missingMember name => Text.quoted name
  | .noItem _ => "list index out of range"
  | .unhashable kind => "unhashable type: '" ++ kind ++ "'"
  | .unordered left right =>
    "'<' not supported between instances of '" ++ left ++ "' and '" ++ right ++ "'"
  | .notPath kind => "expected str, bytes or os.PathLike object, not " ++ kind
  | .notPathPart kind => "unsupported operand type(s) for /: 'PosixPath' and '" ++ kind ++ "'"
  | .notNumber kind =>
    "int() argument must be a string, a bytes-like object or a real number, not '" ++ kind ++ "'"
  | .notNumeral text =>
    "invalid literal for int() with base 10: " ++
      String.ofList ((Text.quoted text).toList.take 200)
  | .hugeNumeral digits => (Datum.Limit.digits digits).message
  | .notFinite isInfinite =>
    if isInfinite then "cannot convert float infinity to integer"
    else "cannot convert float NaN to integer"
  | .badPair length =>
    "dictionary update sequence element #0 has length " ++ toString length ++ "; 2 is required"
  | .unfit reason => reason
  | .notSubtext kind => "'in <string>' requires string as left operand, not " ++ kind

/-! ### The parts -/

/-- Settings that cannot be loaded or saved.  Paths are given as they are written. -/
inductive SettingsFault where
  | missingFile (path : String)
  | notJson (path : String)
  | malformed (path reason : String)
  | unreadable (path : String) (reason : FileError)
  | notObject (path : String)
  | sectionNotObject (name : String)
  | unwritable (path : String) (reason : FileError)
deriving DecidableEq, Repr

/-- The wording of a fault in the settings. -/
def SettingsFault.message : SettingsFault → String
  | .missingFile path => "Configuration file not found: " ++ path
  | .notJson path => "Configuration file must be JSON: " ++ path
  | .malformed path reason => "Invalid JSON in configuration file " ++ path ++ ": " ++ reason
  | .unreadable path reason =>
    "Failed to load configuration file " ++ path ++ ": " ++ reason.message
  | .notObject path => "Configuration file must contain a JSON object: " ++ path
  | .sectionNotObject name => "Configuration section '" ++ name ++ "' must be an object"
  | .unwritable path reason =>
    "Failed to save configuration to " ++ path ++ ": " ++ reason.message

/-- Templates that are not found or cannot be rendered. -/
inductive TemplateFault where
  | missing (name : String)
  | failed (name reason : String)
  | failedText (reason : String)
  /-- It was not to be rendered, but is no template: its form is wrong. -/
  | malformed (reason : String)
  /-- It was not to be rendered, but says something that cannot be. -/
  | senseless (reason : String)
deriving DecidableEq, Repr

/-- The wording of a fault of a template. -/
def TemplateFault.message : TemplateFault → String
  | .missing name => "Template not found: " ++ name
  | .failed name reason => "Failed to render template " ++ name ++ ": " ++ reason
  | .failedText reason => "Failed to render template string: " ++ reason
  | .malformed reason => reason
  | .senseless reason => reason

/-- Generators that cannot be registered or made. -/
inductive RegistryFault where
  | notGenerator
  | aliasIsComponent (name : String)
  | aliasTaken (name component : String)
  | unknown (component : String) (available : List String)
  | badSettings (kind : String)
deriving DecidableEq, Repr

/-- The wording of a fault of the registry. -/
def RegistryFault.message : RegistryFault → String
  | .notGenerator => "Generator class must inherit from CodeGenerator"
  | .aliasIsComponent name => "Alias '" ++ name ++ "' conflicts with existing component"
  | .aliasTaken name component =>
    "Alias '" ++ name ++ "' already points to '" ++ component ++ "'"
  | .unknown component available =>
    "No generator registered for component: " ++ component ++ ". Available: " ++
      Text.join ", " available
  | .badSettings kind => "Invalid config type: <class '" ++ kind ++ "'>"

/-- References that lead to no model that can be analyzed. -/
inductive ModelFault where
  | unresolved (reference : String) (reason : Option String)
  | abstract (name : String)
  | needsArguments (name reason : String)
  | notModel (name : String)
  | notDescribed (name source : String)
  | notImportable (reference reason : String)
  | notMapped (name : String)
deriving DecidableEq, Repr

/-- The wording of a fault of a reference to a model. -/
def ModelFault.message : ModelFault → String
  | .unresolved reference reason =>
    "Cannot resolve model '" ++ reference ++ "'" ++ (reason.map (": " ++ ·)).getD ""
  | .abstract name => "Model '" ++ name ++ "' is abstract"
  | .needsArguments name reason =>
    "Model '" ++ name ++ "' needs a zero-argument constructor: " ++ reason
  | .notModel name => "'" ++ name ++ "' is not a model"
  | .notDescribed name source => "Model '" ++ name ++ "' not found in manifest " ++ source
  | .notImportable reference reason =>
    "Cannot import models from '" ++ reference ++ "': " ++ reason
  | .notMapped name => "No mapped model named '" ++ name ++ "'"

/-- Tables that cannot be read. -/
inductive SchemaFault where
  | disconnected
  | missingTable (table : String)
  | noEngine (url reason : String)
  | noColumns (table : String)
  | unopened
  | notDatabase (table : String)
deriving DecidableEq, Repr

/-- The wording of a fault of the tables. -/
def SchemaFault.message : SchemaFault → String
  | .disconnected => "No schema connection is configured"
  | .missingTable table => "Table '" ++ table ++ "' does not exist"
  | .noEngine url reason => "Cannot create engine for " ++ url ++ ": " ++ reason
  | .noColumns table => "Cannot read columns of table '" ++ table ++ "': " ++ table
  | .unopened =>
    "Cannot inspect database: (sqlite3.OperationalError) unable to open database file\n" ++
      "(Background on this error at: https://sqlalche.me/e/21/e3q8)"
  | .notDatabase table =>
    "Cannot inspect database: (sqlite3.DatabaseError) file is not a database\n" ++
      "[SQL: PRAGMA main.table_info(\"" ++ table ++ "\")]\n" ++
      "(Background on this error at: https://sqlalche.me/e/21/4xp6)"

/-- A fault of the tables that arose when one of them was looked for. -/
def SchemaFault.about (table : String) : SchemaFault → SchemaFault
  | .notDatabase _ => .notDatabase table
  | fault => fault

/-- Models or routes that are not of a form that can be analyzed. -/
inductive AnalysisFault where
  | model (fault : ModelFault)
  | schema (fault : SchemaFault)
  | relationsNotMapping (model kind : String)
  | relationNotObject (accessor model kind : String)
  | notRoutes (kind : String)
  | noRouteTable
deriving DecidableEq, Repr

/-- The wording of a fault of an analysis. -/
def AnalysisFault.message : AnalysisFault → String
  | .model fault => fault.message
  | .schema fault => fault.message
  | .relationsNotMapping name kind =>
    "Relationships of " ++ name ++ " must be a mapping, got " ++ kind
  | .relationNotObject accessor name kind =>
    "Relationship '" ++ accessor ++ "' of " ++ name ++ " must be an object, got " ++ kind
  | .notRoutes kind => "Cannot analyze routes from " ++ kind
  | .noRouteTable => "No route table configured"

/-- Backend descriptions that cannot be loaded or are not of the right form. -/
inductive DescriptionFault where
  | notObject (source : String)
  | routeWithoutUri (entry : String)
  | unknownColumn (table column : String)
  | sectionNotObject (key model kind : String)
  | notLoaded (source reason : String)
deriving DecidableEq, Repr

/-- The wording of a fault of a backend description. -/
def DescriptionFault.message : DescriptionFault → String
  | .notObject source => "Manifest must be a JSON object: " ++ source
  | .routeWithoutUri entry => "Route entry without 'uri': " ++ entry
  | .unknownColumn table column => "Unknown column " ++ table ++ "." ++ column
  | .sectionNotObject key model kind =>
    "'" ++ key ++ "' of model " ++ model ++ " must be an object, got " ++ kind
  | .notLoaded source reason => "Cannot load manifest " ++ source ++ ": " ++ reason

/-- Documents that cannot be fetched. -/
inductive SourceFault where
  | noSource
  | malformedFile (path reason : String)
  | unreadableFile (path : String) (reason : FileError)
  | notUrl (url : String)
  | timeout (url : String)
  | noConnection (url : String)
  | badStatus (status : Int) (url : String)
  | requestFailed (url reason : String)
  | malformedAnswer (url reason : String)
deriving DecidableEq, Repr

/-- The wording of a fault of a document's source. -/
def SourceFault.message : SourceFault → String
  | .noSource => "A file path or URL must be provided"
  | .malformedFile path reason => "Invalid JSON in file " ++ path ++ ": " ++ reason
  | .unreadableFile path reason => "Error reading file " ++ path ++ ": " ++ reason.message
  | .notUrl url => "Invalid URL: " ++ url
  | .timeout url => "Request timeout for URL: " ++ url
  | .noConnection url => "Connection error for URL: " ++ url
  | .badStatus status url => "HTTP error " ++ toString status ++ " for URL: " ++ url
  | .requestFailed url reason => "Request error for URL " ++ url ++ ": " ++ reason
  | .malformedAnswer url reason => "Invalid JSON response from URL " ++ url ++ ": " ++ reason

/-- Commands that cannot be carried out. -/
inductive CommandFault where
  | lonelyDatabaseOption
  | noBackend
  | nothingSelected
deriving DecidableEq, Repr

/-- The wording of a fault of a command. -/
def CommandFault.message : CommandFault → String
  | .lonelyDatabaseOption => "--database-url and --models-module must be given together"
  | .noBackend =>
    "No backend given: use --manifest FILE|URL or --database-url URL --models-module pkg.mod:Base"
  | .nothingSelected => "Every component is skipped; nothing to generate"

/-! ### Any fault -/

/-- Why a run fails. -/
inductive Fault where
  | settings (fault : SettingsFault)
  | template (fault : TemplateFault)
  /-- A widget or screen of an unknown type was asked for. -/
  | variant (family : String) (given : Datum) (supported : List String)
  | registry (fault : RegistryFault)
  | analysis (fault : AnalysisFault)
  | description (fault : DescriptionFault)
  | source (fault : SourceFault)
  | command (fault : CommandFault)
  | misuse (fault : Misuse)
  | file (fault : FileError)
  /-- No file at the path of a document. -/
  | missingDocument (path : String)
  /-- A file that should hold text has a byte that does not belong to any. -/
  | undecodable (fault : Text.Utf8.Fault)
  /-- A document goes beyond what is read. -/
  | overLimit (limit : Datum.Limit)
  /-- No module of the given name, or no such part of a module. -/
  | noModule (reason : String)
  | noImport (reason : String)
  | noPart (reason : String)
  /-- A value that is none of those allowed. -/
  | badValue (reason : String)
  /-- A failure with a given wording, raised by something outside the library. -/
  | raised (reason : String)
deriving Repr

/-- The wording of a fault. -/
def Fault.message : Fault → String
  | .settings fault => fault.message
  | .template fault => fault.message
  | .variant family given supported =>
    "Unsupported " ++ family ++ " type: " ++ given.quoted ++ " (expected one of: " ++
      Text.join ", " supported ++ ")"
  | .registry fault => fault.message
  | .analysis fault => fault.message
  | .description fault => fault.message
  | .source fault => fault.message
  | .command fault => fault.message
  | .misuse fault => fault.message
  | .file fault => fault.message
  | .missingDocument path => "File not found: " ++ path
  | .undecodable fault => fault.message
  | .overLimit limit => limit.message
  | .noModule reason => reason
  | .noImport reason => reason
  | .noPart reason => reason
  | .badValue reason => reason
  | .raised reason => reason

/-- A misuse is a fault. -/
instance : MonadLift (Except Misuse) (Except Fault) := ⟨fun x => x.mapError .misuse⟩

/-- A failed operation on files is a fault. -/
instance : MonadLift (Except FileError) (Except Fault) := ⟨fun x => x.mapError .file⟩

/-- A model that is not found, as a fault. -/
def Fault.model (fault : ModelFault) : Fault := .analysis (.model fault)

/-- A table that cannot be read, as a fault. -/
def Fault.schema (fault : SchemaFault) : Fault := .analysis (.schema fault)

end DartScaffold
