/-
**The template of lists.**

The list of a model: a card for each item.

Main definitions:

* `Dart.itemsTemplate` — the template of lists.
-/

import DartScaffold.Dart.Templates.Header

set_option relaxedAutoImplicit false
set_option autoImplicit false

namespace DartScaffold.Dart

open Template

/-- The template of lists. -/
def itemsTemplate : Template := [
  define "n" (member "widget" "nullable_suffix"),
  define "name" (member "widget" "class_name"),
  define "model" (member "widget" "model_class"),
  importLines "widget",
  .text "\n",
  optionalLine "widget" "doc",
  .text "class ", .value (.name "name"), .text " extends StatelessWidget \x7b\n",
  .text "  final List<", .value (.name "model"), .text "> items;\n",
  .text "  final void Function(", .value (.name "model"), .text " item)", .value (.name "n"),
  .text " onItemTap;\n",
  .text "  final void Function(", .value (.name "model"), .text " item)", .value (.name "n"),
  .text " onItemEdit;\n",
  .text "  final void Function(", .value (.name "model"), .text " item)", .value (.name "n"),
  .text " onItemDelete;\n",
  .text "\n",
  .text "  const ", .value (.name "name"), .text "(\x7b\n",
  .text "    super.key,\n",
  .text "    ", .value (.choose (.name "n") (quote "required ") (quote "")),
  .text "this.items,\n",
  .text "    this.onItemTap,\n",
  .text "    this.onItemEdit,\n",
  .text "    this.onItemDelete,\n",
  .text "  \x7d);\n",
  .text "\n",
  .text "  @override\n",
  .text "  Widget build(BuildContext context) \x7b\n",
  .text "    if (items.isEmpty) \x7b\n",
  .text "      return const Center(\n",
  .text "        child: Text('No items found'),\n",
  .text "      );\n",
  .text "    \x7d\n",
  .text "\n",
  .text "    return ListView.builder(\n",
  .text "      itemCount: items.length,\n",
  .text "      itemBuilder: (context, index) \x7b\n",
  .text "        final item = items[index];\n",
  .text "        return ", .value (.name "model"), .text "Card(\n",
  .text "          item: item,\n",
  .text "          onTap: () => onItemTap?.call(item),\n",
  .text "          onEdit: () => onItemEdit?.call(item),\n",
  .text "          onDelete: () => onItemDelete?.call(item),\n",
  .text "        );\n",
  .text "      \x7d,\n",
  .text "    );\n",
  .text "  \x7d\n",
  .text "\x7d\n"]

end DartScaffold.Dart
