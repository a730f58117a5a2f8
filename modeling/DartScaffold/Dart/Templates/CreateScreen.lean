/-
**The template of create screens.**

The screen to create an item: the form of the model, sent to its service.

Main definitions:

* `Dart.createScreenTemplate` — the template of create screens.
-/

import DartScaffold.Dart.Templates.Header

set_option relaxedAutoImplicit false
set_option autoImplicit false

namespace DartScaffold.Dart

open Template

/-- The template of create screens. -/
def createScreenTemplate : Template := [
  define "n" (member "screen" "nullable_suffix"),
  define "name" (member "screen" "class_name"),
  importLines "screen",
  .text "\n",
  optionalLine "screen" "doc",
  .text "class ", .value (.name "name"), .text " extends StatefulWidget \x7b\n",
  .text "  final ", gap "screen" "service_class", .value (.name "n"), .text " service;\n",
  .text "\n",
  .text "  const ", .value (.name "name"), .text "(\x7bsuper.key, this.service\x7d);\n",
  .text "\n",
  .text "  @override\n",
  .text "  State<", .value (.name "name"), .text "> createState() => _", .value (.name "name"),
  .text "State();\n",
  .text "\x7d\n",
  .text "\n",
  .text "class _", .value (.name "name"), .text "State extends State<", .value (.name "name"),
  .text "> \x7b\n",
  .text "  ", gap "screen" "service_modifier", gap "screen" "service_class",
  .text " _service;\n",
  .text "  bool _isLoading = false;\n",
  .text "  String", .value (.name "n"), .text " _error;\n",
  .text "\n",
  .text "  @override\n",
  .text "  void initState() \x7b\n",
  .text "    super.initState();\n",
  .text "    _service = widget.service ?? ", gap "screen" "service_class",
  .text "(ApiService());\n",
  .text "  \x7d\n",
  .text "\n",
  .text "  Future<void> _handleSubmit(Map<String, dynamic> data) async \x7b\n",
  .text "    setState(() \x7b\n",
  .text "      _isLoading = true;\n",
  .text "      _error = null;\n",
  .text "    \x7d);\n",
  .text "    try \x7b\n",
  .text "      await _service.create(data);\n",
  .text "      if (!mounted) return;\n",
  .text "      Navigator.pop(context, true);\n",
  .text "    \x7d catch (e) \x7b\n",
  .text "      if (!mounted) return;\n",
  .text "      setState(() \x7b\n",
  .text "        _error = e.toString();\n",
  .text "        _isLoading = false;\n",
  .text "      \x7d);\n",
  .text "    \x7d\n",
  .text "  \x7d\n",
  .text "\n",
  .text "  @override\n",
  .text "  Widget build(BuildContext context) \x7b\n",
  .text "    final error = _error;\n",
  .text "    return Scaffold(\n",
  .text "      appBar: AppBar(\n",
  .text "        title: const Text('", gap "screen" "title", .text "'),\n",
  .text "      ),\n",
  .text "      body: SingleChildScrollView(\n",
  .text "        padding: const EdgeInsets.all(16),\n",
  .text "        child: Column(\n",
  .text "          crossAxisAlignment: CrossAxisAlignment.stretch,\n",
  .text "          children: [\n",
  .text "            if (_isLoading) const LinearProgressIndicator(),\n",
  .text "            if (error != null)\n",
  .text "              Padding(\n",
  .text "                padding: const EdgeInsets.only(bottom: 16),\n",
  .text "                child: Text(\n",
  .text "                  error,\n",
  .text "                  style: TextStyle(color: Theme.of(context).colorScheme.error),\n",
  .text "                ),\n",
  .text "              ),\n",
  .text "            ", .value (.apply (member "screen" "widget_class") "form"),
  .text "(onSubmit: _handleSubmit),\n",
  .text "          ],\n",
  .text "        ),\n",
  .text "      ),\n",
  .text "    );\n",
  .text "  \x7d\n",
  .text "\x7d\n"]

end DartScaffold.Dart
