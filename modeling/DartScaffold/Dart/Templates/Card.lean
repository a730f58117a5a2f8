/-
**The template of cards.**

The card of an item: one or two of its fields, and a menu to edit or delete it.

Main definitions:

* `Dart.cardTemplate` — the template of cards.
-/

import DartScaffold.Dart.Templates.Header

set_option relaxedAutoImplicit false
set_option autoImplicit false

namespace DartScaffold.Dart

open Template

/-- The template of cards. -/
def cardTemplate : Template := [
  define "n" (member "widget" "nullable_suffix"),
  define "name" (member "widget" "class_name"),
  define "model" (member "widget" "model_class"),
  importLines "widget",
  .text "\n",
  optionalLine "widget" "doc",
  .text "class ", .value (.name "name"), .text " extends StatelessWidget \x7b\n",
  .text "  final ", .value (.name "model"), .text " item;\n",
  .text "  final VoidCallback", .value (.name "n"), .text " onTap;\n",
  .text "  final VoidCallback", .value (.name "n"), .text " onEdit;\n",
  .text "  final VoidCallback", .value (.name "n"), .text " onDelete;\n",
  .text "\n",
  .text "  const ", .value (.name "name"), .text "(\x7b\n",
  .text "    super.key,\n",
  .text "    ", .value (.choose (.name "n") (quote "required ") (quote "")),
  .text "this.item,\n",
  .text "    this.onTap,\n",
  .text "    this.onEdit,\n",
  .text "    this.onDelete,\n",
  .text "  \x7d);\n",
  .text "\n",
  .text "  @override\n",
  .text "  Widget build(BuildContext context) \x7b\n",
  .text "    return Card(\n",
  .text "      margin: const EdgeInsets.symmetric(horizontal: 16, vertical: 8),\n",
  .text "      child: ListTile(\n",
  .text "        title: Text(", gap "widget" "primary_expression", .text "),\n",
  when (member "widget" "secondary_expression") [
    .text "        subtitle: Text(", gap "widget" "secondary_expression", .text "),\n"],
  .text "        onTap: onTap,\n",
  .text "        trailing: PopupMenuButton<String>(\n",
  .text "          onSelected: (value) \x7b\n",
  .text "            if (value == 'edit') \x7b\n",
  .text "              onEdit?.call();\n",
  .text "            \x7d else if (value == 'delete') \x7b\n",
  .text "              onDelete?.call();\n",
  .text "            \x7d\n",
  .text "          \x7d,\n",
  .text "          itemBuilder: (context) => const [\n",
  .text "            PopupMenuItem(value: 'edit', child: Text('Edit')),\n",
  .text "            PopupMenuItem(value: 'delete', child: Text('Delete')),\n",
  .text "          ],\n",
  .text "        ),\n",
  .text "      ),\n",
  .text "    );\n",
  .text "  \x7d\n",
  .text "\x7d\n"]

end DartScaffold.Dart
