/-
**The words that Dart takes.**

Dart reserves some words, and every generated class has or uses a few members whose names a field
must not have.

Main definitions:

* `Dart.keywords` — the reserved words and built-in identifiers of the language;
* `Dart.memberNames` — types and members that a field would shadow;
* `Dart.sanitizer` — the rule for names in Dart.
-/

import DartScaffold.Naming.Sanitizer

set_option relaxedAutoImplicit false
set_option autoImplicit false

namespace DartScaffold.Dart

/-- The reserved words and built-in identifiers of the language. -/
def keywords : List String := [
  "abstract", "as", "assert", "async", "await", "break", "case", "catch", "class", "const",
  "continue", "covariant", "default", "deferred", "do", "dynamic", "else", "enum", "export",
  "extends", "extension", "external", "factory", "false", "final", "finally", "for", "get", "if",
  "implements", "import", "in", "interface", "is", "late", "library", "mixin", "new", "null",
  "operator", "part", "required", "rethrow", "return", "set", "static", "super", "switch", "this",
  "throw", "true", "try", "typedef", "var", "void", "while", "with", "yield"]

/-- Types and members that a field would shadow. -/
def memberNames : List String := [
  "bool", "double", "int", "num", "hashCode", "runtimeType", "toString", "toJson", "copyWith"]

/-- The rule for names in Dart. -/
def sanitizer : Naming.Sanitizer := ⟨keywords, memberNames⟩

end DartScaffold.Dart
