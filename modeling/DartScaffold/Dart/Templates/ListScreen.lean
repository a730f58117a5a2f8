/-
**The template of list screens.**

The screen with the list of a model: loading the items, and leading to the other screens.

Main definitions:

* `Dart.listScreenTemplate` — the template of list screens.
-/

import DartScaffold.Dart.Templates.Header

set_option relaxedAutoImplicit false
set_option autoImplicit false

namespace DartScaffold.Dart

open Template

/-- The template of list screens. -/
def listScreenTemplate : Template := [
  define "n" (member "screen" "nullable_suffix"),
  define "name" (member "screen" "class_name"),
  define "model" (member "screen" "model_class"),
  importLines "screen",
  .text "\n",
  optionalLine "screen" "doc",
  .text "class ", .value (.name "name"), .text " extends StatefulWidget \x7b\n",
  .text "  final ", gap "screen" "service_class", .value (.name "n"), .text " service;\n",
  .text "\n",
  .text "  const ", .value (.name "name"), .text "(\x7bsuper.key, this.service\x7d);\n",
  .text "\n",
  .text "  @override\n",
  .text "  State<", .value (.name "name"), .text "> createState() => _", .value (.name "name"),
  .text "State();\n",
  .text "\x7d\n",
  .text "\n",
  .text "class _", .value (.name "name"), .text "State extends State<", .value (.name "name"),
  .text "> \x7b\n",
  .text "  ", gap "screen" "service_modifier", gap "screen" "service_class",
  .text " _service;\n",
  .text "  List<", .value (.name "model"), .text "> _items = [];\n",
  .text "  bool _isLoading = false;\n",
  .text "  String", .value (.name "n"), .text " _error;\n",
  .text "\n",
  .text "  @override\n",
  .text "  void initState() \x7b\n",
  .text "    super.initState();\n",
  .text "    _service = widget.service ?? ", gap "screen" "service_class",
  .text "(ApiService());\n",
  .text "    _loadItems();\n",
  .text "  \x7d\n",
  .text "\n",
  .text "  Future<void> _loadItems() async \x7b\n",
  .text "    setState(() \x7b\n",
  .text "      _isLoading = true;\n",
  .text "      _error = null;\n",
  .text "    \x7d);\n",
  .text "    try \x7b\n",
  .text "      final items = await _service.getAll();\n",
  .text "      if (!mounted) return;\n",
  .text "      setState(() \x7b\n",
  .text "        _items = items;\n",
  .text "        _isLoading = false;\n",
  .text "      \x7d);\n",
  .text "    \x7d catch (e) \x7b\n",
  .text "      if (!mounted) return;\n",
  .text "      setState(() \x7b\n",
  .text "        _error = e.toString();\n",
  .text "        _isLoading = false;\n",
  .text "      \x7d);\n",
  .text "    \x7d\n",
  .text "  \x7d\n",
  .text "\n",
  .text "  Future<void> _openCreate() async \x7b\n",
  .text "    final created = await Navigator.push<bool>(\n",
  .text "      context,\n",
  .text "      MaterialPageRoute(\n",
  .text "        builder: (context) => ",
  .value (.apply (member "screen" "screen_class") "create"),
  .text "(service: _service),\n",
  .text "      ),\n",
  .text "    );\n",
  .text "    if (created == true) \x7b\n",
  .text "      _loadItems();\n",
  .text "    \x7d\n",
  .text "  \x7d\n",
  .text "\n",
  .text "  Future<void> _openDetail(", .value (.name "model"), .text " item) async \x7b\n",
  .text "    await Navigator.push(\n",
  .text "      context,\n",
  .text "      MaterialPageRoute(\n",
  .text "        builder: (context) => ",
  .value (.apply (member "screen" "screen_class") "detail"), .text "(\n",
  .text "          id: ", .value (.apply (member "screen" "id_expression") "item"),
  .text ",\n",
  .text "          service: _service,\n",
  .text "        ),\n",
  .text "      ),\n",
  .text "    );\n",
  .text "    _loadItems();\n",
  .text "  \x7d\n",
  .text "\n",
  .text "  Future<void> _openEdit(", .value (.name "model"), .text " item) async \x7b\n",
  .text "    final updated = await Navigator.push<bool>(\n",
  .text "      context,\n",
  .text "      MaterialPageRoute(\n",
  .text "        builder: (context) => ",
  .value (.apply (member "screen" "screen_class") "edit"),
  .text "(item: item, service: _service),\n",
  .text "      ),\n",
  .text "    );\n",
  .text "    if (updated == true) \x7b\n",
  .text "      _loadItems();\n",
  .text "    \x7d\n",
  .text "  \x7d\n",
  .text "\n",
  .text "  Future<void> _confirmDelete(", .value (.name "model"), .text " item) async \x7b\n",
  .text "    final confirmed = await showDialog<bool>(\n",
  .text "      context: context,\n",
  .text "      builder: (context) => AlertDialog(\n",
  .text "        title: const Text('Delete ", gap "screen" "label", .text "'),\n",
  .text "        content: const Text('Are you sure you want to delete this item?'),\n",
  .text "        actions: [\n",
  .text "          TextButton(\n",
  .text "            onPressed: () => Navigator.pop(context, false),\n",
  .text "            child: const Text('Cancel'),\n",
  .text "          ),\n",
  .text "          TextButton(\n",
  .text "            onPressed: () => Navigator.pop(context, true),\n",
  .text "            child: const Text('Delete'),\n",
  .text "          ),\n",
  .text "        ],\n",
  .text "      ),\n",
  .text "    );\n",
  .text "    if (confirmed != true) return;\n",
  .text "\n",
  .text "    try \x7b\n",
  .text "      await _service.delete(",
  .value (.apply (member "screen" "id_expression") "item"), .text ");\n",
  .text "      _loadItems();\n",
  .text "    \x7d catch (e) \x7b\n",
  .text "      if (!mounted) return;\n",
  .text "      setState(() => _error = e.toString());\n",
  .text "    \x7d\n",
  .text "  \x7d\n",
  .text "\n",
  .text "  @override\n",
  .text "  Widget build(BuildContext context) \x7b\n",
  .text "    return Scaffold(\n",
  .text "      appBar: AppBar(\n",
  .text "        title: const Text('", gap "screen" "title", .text "'),\n",
  .text "      ),\n",
  .text "      body: _buildBody(),\n",
  .text "      floatingActionButton: FloatingActionButton(\n",
  .text "        onPressed: _openCreate,\n",
  .text "        child: const Icon(Icons.add),\n",
  .text "      ),\n",
  .text "    );\n",
  .text "  \x7d\n",
  .text "\n",
  .text "  Widget _buildBody() \x7b\n",
  .text "    if (_isLoading) \x7b\n",
  .text "      return const Center(child: CircularProgressIndicator());\n",
  .text "    \x7d\n",
  .text "\n",
  .text "    final error = _error;\n",
  .text "    if (error != null) \x7b\n",
  .text "      return Center(\n",
  .text "        child: Column(\n",
  .text "          mainAxisSize: MainAxisSize.min,\n",
  .text "          children: [\n",
  .text "            Text('Error: $error'),\n",
  .text "            const SizedBox(height: 16),\n",
  .text "            ElevatedButton(\n",
  .text "              onPressed: _loadItems,\n",
  .text "              child: const Text('Retry'),\n",
  .text "            ),\n",
  .text "          ],\n",
  .text "        ),\n",
  .text "      );\n",
  .text "    \x7d\n",
  .text "\n",
  .text "    return RefreshIndicator(\n",
  .text "      onRefresh: _loadItems,\n",
  .text "      child: ", .value (.apply (member "screen" "widget_class") "list"),
  .text "(\n",
  .text "        items: _items,\n",
  .text "        onItemTap: _openDetail,\n",
  .text "        onItemEdit: _openEdit,\n",
  .text "        onItemDelete: _confirmDelete,\n",
  .text "      ),\n",
  .text "    );\n",
  .text "  \x7d\n",
  .text "\x7d\n"]

end DartScaffold.Dart
