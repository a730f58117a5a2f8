/-
**The built-in templates.**

Every generated file has a built-in template, known under the name of its file with the usual
ending.

Main definitions:

* `Dart.builtin` — the built-in templates by name.
-/

import DartScaffold.Dart.Templates.Card
import DartScaffold.Dart.Templates.CreateScreen
import DartScaffold.Dart.Templates.DataClass
import DartScaffold.Dart.Templates.DetailScreen
import DartScaffold.Dart.Templates.EditScreen
import DartScaffold.Dart.Templates.Form
import DartScaffold.Dart.Templates.Items
import DartScaffold.Dart.Templates.ListScreen
import DartScaffold.Dart.Templates.Service
import DartScaffold.Dart.Templates.Transport

set_option relaxedAutoImplicit false
set_option autoImplicit false

namespace DartScaffold.Dart

/-- The built-in templates by name. -/
def builtin : List (String × Template) := [
  ("model.dart.j2", dataClassTemplate), ("service.dart.j2", serviceTemplate),
  ("widget_form.dart.j2", formTemplate), ("widget_list.dart.j2", itemsTemplate),
  ("widget_card.dart.j2", cardTemplate), ("screen_list.dart.j2", listScreenTemplate),
  ("screen_detail.dart.j2", detailScreenTemplate),
  ("screen_create.dart.j2", createScreenTemplate), ("screen_edit.dart.j2", editScreenTemplate),
  ("api_service.dart.j2", transportTemplate)]

end DartScaffold.Dart
