/-
**Fields of a data class.**

A column becomes a field of the data class.  The field knows its declared type, the expressions
that read it from and write it to JSON, the control that it is edited by, and its label.

Main definitions:

* `Dart.Field`, `Dart.Field.ofAttribute` — a field, and the one of a column;
* `Dart.fields`, `Dart.inputFields` — the fields of a model, and those that can be edited;
* `Dart.displayExpression` — how a field is shown.
-/

import DartScaffold.Dart.Context
import DartScaffold.Template.Value

set_option relaxedAutoImplicit false
set_option autoImplicit false

namespace DartScaffold.Dart

/-! ### Types -/

/-- The type of a column's values in Dart. -/
def typeOf : ColumnType → String
  | .int => "int"
  | .double => "double"
  | .bool => "bool"
  | .datetime => "DateTime"
  | .json => "Map<String, dynamic>"
  | .string => "String"

/-- The type of a parameter in Dart. -/
def parameterTypeOf : ParameterType → String
  | .int => "int"
  | .string => "String"

/-- The control that values of a type are edited by. -/
def controlOf : ColumnType → String
  | .int | .double => "number"
  | .bool => "toggle"
  | .datetime => "date"
  | .json | .string => "text"

/-! ### Fields -/

/-- A field of a data class. -/
structure Field where
  name : String
  jsonKey : Datum
  type : String
  target : ColumnType
  nullable : Bool
  /-- The declared type, marked if the value may be missing. -/
  declared : String
  /-- The type of the argument that replaces the field in a copy. -/
  copied : String
  fromJson : String
  toJson : String
  label : String
deriving Repr, Inhabited

namespace Field

/-- Whether a value must be given. -/
def required (f : Field) : Bool := !f.nullable

/-- The control that the field is edited by. -/
def control (f : Field) : String := controlOf f.target

/-- Whether the field holds numbers. -/
def isNumeric (f : Field) : Bool := f.target == .int || f.target == .double

/-- Whether the field holds texts. -/
def isText (f : Field) : Bool := f.target == .string

/-- The expression that reads the value under `key` as a type. -/
def reading (mark key : String) (target : ColumnType) (nullable : Bool) : String :=
  let value := "json['" ++ key ++ "']"
  match target, nullable with
  | .datetime, true => value ++ " != null ? DateTime.parse(" ++ value ++ " as String) : null"
  | .datetime, false => "DateTime.parse(" ++ value ++ " as String)"
  | .int, true => "(" ++ value ++ " as num" ++ mark ++ ")?.toInt()"
  | .int, false => "(" ++ value ++ " as num).toInt()"
  | .double, true => "(" ++ value ++ " as num" ++ mark ++ ")?.toDouble()"
  | .double, false => "(" ++ value ++ " as num).toDouble()"
  | t, true => value ++ " as " ++ typeOf t ++ mark
  | t, false => value ++ " as " ++ typeOf t

/-- The expression that writes a field. -/
def writing (name : String) (target : ColumnType) (nullable : Bool) : String :=
  match target, nullable with
  | .datetime, true => name ++ "?.toIso8601String()"
  | .datetime, false => name ++ ".toIso8601String()"
  | _, _ => name

/-- The field of a column. -/
def ofAttribute (c : Context) (a : Attribute) : Field :=
  let name := c.names.field a.name
  let type := typeOf a.target
  { name := name
    jsonKey := a.name
    type := type
    target := a.target
    nullable := a.nullable
    declared := if a.nullable then type ++ c.mark else type
    copied := type ++ c.mark
    fromJson := reading c.mark a.name.display a.target a.nullable
    toJson := writing name a.target a.nullable
    label := Naming.title (Naming.source a.name) }

/-- The name of a column's type as one of the family of types. -/
def symbolOf (t : ColumnType) : Template.Value :=
  .symbol "flutter_codegen.codegen.core.schema.TargetType" (Text.upper t.name) t.name

/-- A field as a value in templates. -/
def value (f : Field) : Template.Value :=
  .record (recordName "types" "DartField") none [
    ("name", .text f.name), ("json_key", .datum f.jsonKey), ("dart_type", .text f.type),
    ("target_type", symbolOf f.target), ("nullable", .flag f.nullable),
    ("type_annotation", .text f.declared), ("copy_with_type", .text f.copied),
    ("from_json", .text f.fromJson), ("to_json", .text f.toJson), ("label", .text f.label)] [
    ("required", .flag f.required), ("control", .text f.control),
    ("is_numeric", .flag f.isNumeric), ("is_string", .flag f.isText)]

end Field

/-- The fields of a model in the order of its columns. -/
def fields (c : Context) (m : Model) : List Field := (c.included m).map (Field.ofAttribute c)

/-- The fields that can be edited. -/
def inputFields (c : Context) (m : Model) : List Field :=
  (fields c m).filter fun f => !Context.systemColumns.any fun key => f.jsonKey.same (.text key)

/-- The expression that shows a field of `receiver` as a text. -/
def displayExpression (receiver : String) (f : Field) : String :=
  let access := receiver ++ "." ++ f.name
  if f.nullable then access ++ "?.toString() ?? ''"
  else if f.isText then access
  else access ++ ".toString()"

end DartScaffold.Dart
