/-
**Data classes.**

The data class of a model has a field for each column that is not left out.  It imports the data
classes of the related models, and with annotations also the part that another tool generates.

Main definitions:

* `Dart.DataClass`, `Dart.dataClass` — what the class consists of, and the one of a model;
* `Dart.DataClass.value` — the class as a value in templates.
-/

import DartScaffold.Dart.Field

set_option relaxedAutoImplicit false
set_option autoImplicit false

namespace DartScaffold.Dart

/-- What a data class consists of. -/
structure DataClass where
  name : String
  fields : List Field
  imports : List String
  /-- The line that includes the generated part. -/
  part? : Option String
  /-- Whether the class is annotated, as the settings have it. -/
  annotated : Datum
  /-- The word before an argument that must be given. -/
  requiredWord : String
  comment : String
deriving Repr, Inhabited

namespace DataClass

/-- The names of the fields. -/
def fieldNames (d : DataClass) : List String := d.fields.map Field.name

/-- The fields with their values inside a text. -/
def shownFields (d : DataClass) : String :=
  Text.join ", " (d.fields.map fun f => f.name ++ ": $" ++ f.name)

/-- The class as a value in templates. -/
def value (d : DataClass) : Template.Value :=
  .record (recordName "model" "DartModelSpec") none [
    ("class_name", .text d.name), ("fields", .list (d.fields.map Field.value)),
    ("imports", .texts d.imports), ("part_directive", .optional d.part?),
    ("use_json_annotation", .datum d.annotated), ("required_keyword", .text d.requiredWord),
    ("doc", .text d.comment)] [
    ("field_names", .texts d.fieldNames), ("to_string_body", .text d.shownFields)]

end DataClass

/-- The file names of the related models, each once and in order, without the model's own. -/
def relatedStems (m : Model) : List String :=
  let stems := (m.relationships.map fun (_, r) => modelStem r.relatedName).filter
    fun s => s != modelStem m.className
  Datum.sortedTexts stems.eraseDups

/-- The data class of a model. -/
def dataClass (c : Context) (m : Model) : DataClass :=
  let name := c.typeName m
  let annotated := c.settings.code.useJsonAnnotation
  { name := name
    fields := fields c m
    imports :=
      (if annotated.truthy
        then ["import 'package:json_annotation/json_annotation.dart';"] else []) ++
        (relatedStems m).map fun s => "import '" ++ s ++ ".dart';"
    part? :=
      if annotated.truthy then some ("part '" ++ modelStem m.className ++ ".g.dart';") else none
    annotated := annotated
    requiredWord := if c.nullSafe then "required " else ""
    comment := c.comment 0
      (name ++ " model generated from the `" ++ m.table.display ++ "` table.") }

end DartScaffold.Dart
