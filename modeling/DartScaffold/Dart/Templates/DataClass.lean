/-
**The template of data classes.**

The data class of a model: its fields, a constructor, reading from and writing to JSON, copying with
changes, a text, and equality.  With annotations, reading and writing are left to generated code.

Main definitions:

* `Dart.dataClassTemplate` — the template of data classes.
-/

import DartScaffold.Dart.Templates.Header

set_option relaxedAutoImplicit false
set_option autoImplicit false

namespace DartScaffold.Dart

open Template

/-- The template of data classes. -/
def dataClassTemplate : Template := [
  importLines "model",
  when (member "model" "part_directive") [
    .text "\n",
    gap "model" "part_directive", .text "\n"],
  .text "\n",
  optionalLine "model" "doc",
  when (member "model" "use_json_annotation") [.text "@JsonSerializable()\n"],
  .text "class ", gap "model" "class_name", .text " \x7b\n",
  each "field" (member "model" "fields") always [
    when (member "model" "use_json_annotation") [
      .text "  @JsonKey(name: '", gap "field" "json_key", .text "')\n"],
    .text "  final ", gap "field" "type_annotation", .text " ", gap "field" "name", .text ";\n",
    .text "\n"],
  .branch (member "model" "fields") [
    .text "  const ", gap "model" "class_name", .text "(\x7b\n",
    each "field" (member "model" "fields") always [
      .text "    ",
      .value (.choose (member "field" "required") (member "model" "required_keyword") (quote "")),
      .text "this.", gap "field" "name", .text ",\n"],
    .text "  \x7d);\n"] [
    .text "  const ", gap "model" "class_name", .text "();\n"],
  .text "\n",
  .branch (member "model" "use_json_annotation") [
    .text "  factory ", gap "model" "class_name",
    .text ".fromJson(Map<String, dynamic> json) =>\n",
    .text "      _$", gap "model" "class_name", .text "FromJson(json);\n",
    .text "\n",
    .text "  Map<String, dynamic> toJson() => _$", gap "model" "class_name",
    .text "ToJson(this);\n"] [
    .text "  factory ", gap "model" "class_name",
    .text ".fromJson(Map<String, dynamic> json) \x7b\n",
    .text "    return ", gap "model" "class_name", .text "(\n",
    each "field" (member "model" "fields") always [
      .text "      ", gap "field" "name", .text ": ", gap "field" "from_json", .text ",\n"],
    .text "    );\n",
    .text "  \x7d\n",
    .text "\n",
    .text "  Map<String, dynamic> toJson() \x7b\n",
    .text "    return \x7b\n",
    each "field" (member "model" "fields") always [
      .text "      '", gap "field" "json_key", .text "': ", gap "field" "to_json", .text ",\n"],
    .text "    \x7d;\n",
    .text "  \x7d\n"],
  .text "\n",
  .branch (member "model" "fields") [
    .text "  ", gap "model" "class_name", .text " copyWith(\x7b\n",
    each "field" (member "model" "fields") always [
      .text "    ", gap "field" "copy_with_type", .text " ", gap "field" "name", .text ",\n"],
    .text "  \x7d) \x7b\n",
    .text "    return ", gap "model" "class_name", .text "(\n",
    each "field" (member "model" "fields") always [
      .text "      ", gap "field" "name", .text ": ", gap "field" "name", .text " ?? this.",
      gap "field" "name", .text ",\n"],
    .text "    );\n",
    .text "  \x7d\n"] [
    .text "  ", gap "model" "class_name", .text " copyWith() \x7b\n",
    .text "    return const ", gap "model" "class_name", .text "();\n",
    .text "  \x7d\n"],
  .text "\n",
  .text "  @override\n",
  .text "  String toString() \x7b\n",
  .text "    return '", gap "model" "class_name", .text "(", gap "model" "to_string_body",
  .text ")';\n",
  .text "  \x7d\n",
  .text "\n",
  .text "  @override\n",
  .text "  bool operator ==(Object other) \x7b\n",
  .text "    if (identical(this, other)) return true;\n",
  .branch (member "model" "fields") [
    .text "    return other is ", gap "model" "class_name", .text " &&\n",
    each "field" (member "model" "fields") always [
      .text "        other.", gap "field" "name", .text " == this.", gap "field" "name",
      .value (.choose (member "loop" "last") (quote ";") (quote " &&")), .text "\n"]] [
    .text "    return other is ", gap "model" "class_name", .text ";\n"],
  .text "  \x7d\n",
  .text "\n",
  .text "  @override\n",
  .text "  int get hashCode \x7b\n",
  .branch (member "model" "fields") [
    .text "    return Object.hashAll([\n",
    each "field" (member "model" "fields") always [
      .text "      ", gap "field" "name", .text ",\n"],
    .text "    ]);\n"] [
    .text "    return runtimeType.hashCode;\n"],
  .text "  \x7d\n",
  .text "\x7d\n"]

end DartScaffold.Dart
