/-
**The template of detail screens.**

The screen with the details of an item: loading the item, and a line for each field.

Main definitions:

* `Dart.detailScreenTemplate` — the template of detail screens.
-/

import DartScaffold.Dart.Templates.Header

set_option relaxedAutoImplicit false
set_option autoImplicit false

namespace DartScaffold.Dart

open Template

/-- The template of detail screens. -/
def detailScreenTemplate : Template := [
  define "n" (member "screen" "nullable_suffix"),
  define "name" (member "screen" "class_name"),
  define "model" (member "screen" "model_class"),
  importLines "screen",
  .text "\n",
  optionalLine "screen" "doc",
  .text "class ", .value (.name "name"), .text " extends StatefulWidget \x7b\n",
  .text "  final int id;\n",
  .text "  final ", gap "screen" "service_class", .value (.name "n"), .text " service;\n",
  .text "\n",
  .text "  const ", .value (.name "name"), .text "(\x7bsuper.key, ",
  .value (.choose (.name "n") (quote "required ") (quote "")),
  .text "this.id, this.service\x7d);\n",
  .text "\n",
  .text "  @override\n",
  .text "  State<", .value (.name "name"), .text "> createState() => _", .value (.name "name"),
  .text "State();\n",
  .text "\x7d\n",
  .text "\n",
  .text "class _", .value (.name "name"), .text "State extends State<", .value (.name "name"),
  .text "> \x7b\n",
  .text "  ", gap "screen" "service_modifier", gap "screen" "service_class",
  .text " _service;\n",
  .text "  ", .value (.name "model"), .value (.name "n"), .text " _item;\n",
  .text "  bool _isLoading = false;\n",
  .text "  String", .value (.name "n"), .text " _error;\n",
  .text "\n",
  .text "  @override\n",
  .text "  void initState() \x7b\n",
  .text "    super.initState();\n",
  .text "    _service = widget.service ?? ", gap "screen" "service_class",
  .text "(ApiService());\n",
  .text "    _loadItem();\n",
  .text "  \x7d\n",
  .text "\n",
  .text "  Future<void> _loadItem() async \x7b\n",
  .text "    setState(() \x7b\n",
  .text "      _isLoading = true;\n",
  .text "      _error = null;\n",
  .text "    \x7d);\n",
  .text "    try \x7b\n",
  .text "      final item = await _service.getById(widget.id);\n",
  .text "      if (!mounted) return;\n",
  .text "      setState(() \x7b\n",
  .text "        _item = item;\n",
  .text "        _isLoading = false;\n",
  .text "      \x7d);\n",
  .text "    \x7d catch (e) \x7b\n",
  .text "      if (!mounted) return;\n",
  .text "      setState(() \x7b\n",
  .text "        _error = e.toString();\n",
  .text "        _isLoading = false;\n",
  .text "      \x7d);\n",
  .text "    \x7d\n",
  .text "  \x7d\n",
  .text "\n",
  .text "  Future<void> _openEdit() async \x7b\n",
  .text "    final item = _item;\n",
  .text "    if (item == null) return;\n",
  .text "\n",
  .text "    final updated = await Navigator.push<bool>(\n",
  .text "      context,\n",
  .text "      MaterialPageRoute(\n",
  .text "        builder: (context) => ",
  .value (.apply (member "screen" "screen_class") "edit"),
  .text "(item: item, service: _service),\n",
  .text "      ),\n",
  .text "    );\n",
  .text "    if (updated == true) \x7b\n",
  .text "      _loadItem();\n",
  .text "    \x7d\n",
  .text "  \x7d\n",
  .text "\n",
  .text "  @override\n",
  .text "  Widget build(BuildContext context) \x7b\n",
  .text "    return Scaffold(\n",
  .text "      appBar: AppBar(\n",
  .text "        title: const Text('", gap "screen" "title", .text "'),\n",
  .text "        actions: [\n",
  .text "          IconButton(\n",
  .text "            icon: const Icon(Icons.edit),\n",
  .text "            onPressed: _item == null ? null : _openEdit,\n",
  .text "          ),\n",
  .text "        ],\n",
  .text "      ),\n",
  .text "      body: _buildBody(),\n",
  .text "    );\n",
  .text "  \x7d\n",
  .text "\n",
  .text "  Widget _buildBody() \x7b\n",
  .text "    if (_isLoading) \x7b\n",
  .text "      return const Center(child: CircularProgressIndicator());\n",
  .text "    \x7d\n",
  .text "\n",
  .text "    final error = _error;\n",
  .text "    if (error != null) \x7b\n",
  .text "      return Center(\n",
  .text "        child: Column(\n",
  .text "          mainAxisSize: MainAxisSize.min,\n",
  .text "          children: [\n",
  .text "            Text('Error: $error'),\n",
  .text "            const SizedBox(height: 16),\n",
  .text "            ElevatedButton(\n",
  .text "              onPressed: _loadItem,\n",
  .text "              child: const Text('Retry'),\n",
  .text "            ),\n",
  .text "          ],\n",
  .text "        ),\n",
  .text "      );\n",
  .text "    \x7d\n",
  .text "\n",
  .text "    final item = _item;\n",
  .text "    if (item == null) \x7b\n",
  .text "      return const Center(child: Text('Not found'));\n",
  .text "    \x7d\n",
  .text "\n",
  .text "    return ListView(\n",
  .text "      padding: const EdgeInsets.all(16),\n",
  .text "      children: [\n",
  each "row" (member "screen" "rows") always [
    .text "        _buildRow('", gap "row" "label", .text "', ", gap "row" "expression",
    .text "),\n"],
  .text "      ],\n",
  .text "    );\n",
  .text "  \x7d\n",
  .text "\n",
  .text "  Widget _buildRow(String label, String value) \x7b\n",
  .text "    return Padding(\n",
  .text "      padding: const EdgeInsets.symmetric(vertical: 8),\n",
  .text "      child: Row(\n",
  .text "        crossAxisAlignment: CrossAxisAlignment.start,\n",
  .text "        children: [\n",
  .text "          SizedBox(\n",
  .text "            width: 120,\n",
  .text "            child: Text(\n",
  .text "              label,\n",
  .text "              style: const TextStyle(fontWeight: FontWeight.bold),\n",
  .text "            ),\n",
  .text "          ),\n",
  .text "          Expanded(child: Text(value)),\n",
  .text "        ],\n",
  .text "      ),\n",
  .text "    );\n",
  .text "  \x7d\n",
  .text "\x7d\n"]

end DartScaffold.Dart
