/-
**Parts of the templates that occur in many of them.**

Most generated files begin with the lines that import others, and classes are preceded by a comment
if one is wanted.

Main definitions:

* `Dart.importLines` — the lines that import others;
* `Dart.optionalLine` — a line that may be missing.
-/

import DartScaffold.Template.Basic

set_option relaxedAutoImplicit false
set_option autoImplicit false

namespace DartScaffold.Dart

open Template

/-- The lines by which the file of `owner` imports others. -/
def importLines (owner : String) : Segment :=
  each "line" (member owner "imports") always [.value (.name "line"), .text "\n"]

/-- The member `field` of `owner` on a line of its own, unless it is empty. -/
def optionalLine (owner field : String) : Segment :=
  when (member owner field) [gap owner field, .text "\n"]

end DartScaffold.Dart
