/-
**The template of forms.**

The form of a model: its controls with their states, and what happens when it is sent.

Main definitions:

* `Dart.formTemplate` — the template of forms.
-/

import DartScaffold.Dart.Templates.Header

set_option relaxedAutoImplicit false
set_option autoImplicit false

namespace DartScaffold.Dart

open Template

/-- The template of forms. -/
def formTemplate : Template := [
  define "n" (member "widget" "nullable_suffix"),
  define "name" (member "widget" "class_name"),
  importLines "widget",
  .text "\n",
  optionalLine "widget" "doc",
  .text "class ", .value (.name "name"), .text " extends StatefulWidget \x7b\n",
  .text "  final void Function(Map<String, dynamic> data)", .value (.name "n"),
  .text " onSubmit;\n",
  .text "  final Map<String, dynamic>", .value (.name "n"), .text " initialData;\n",
  .text "\n",
  .text "  const ", .value (.name "name"),
  .text "(\x7bsuper.key, this.onSubmit, this.initialData\x7d);\n",
  .text "\n",
  .text "  @override\n",
  .text "  State<", .value (.name "name"), .text "> createState() => _", .value (.name "name"),
  .text "State();\n",
  .text "\x7d\n",
  .text "\n",
  .text "class _", .value (.name "name"), .text "State extends State<", .value (.name "name"),
  .text "> \x7b\n",
  .text "  final _formKey = GlobalKey<FormState>();\n",
  each "control" (member "widget" "controls") always [
    .branch (member "control" "uses_controller") [
      .text "  ", .value (.choose (.name "n") (quote "late final ") (quote "")),
      .text "TextEditingController ", gap "control" "state_name", .text ";\n"] [
      .text "  bool ", gap "control" "state_name", .text " = false;\n"]],
  .text "\n",
  .text "  @override\n",
  .text "  void initState() \x7b\n",
  .text "    super.initState();\n",
  when (member "widget" "controls") [
    .text "    final initial = widget.initialData ?? const <String, dynamic>\x7b\x7d;\n"],
  each "control" (member "widget" "controls") always [
    .branch (member "control" "uses_controller") [
      .text "    ", gap "control" "state_name", .text " = TextEditingController(\n",
      .text "      text: initial['", .value (.member (member "control" "field") "json_key"),
      .text "']?.toString() ?? '',\n",
      .text "    );\n"] [
      .text "    ", gap "control" "state_name", .text " = initial['",
      .value (.member (member "control" "field") "json_key"), .text "'] == true;\n"]],
  .text "  \x7d\n",
  .text "\n",
  .text "  @override\n",
  .text "  void dispose() \x7b\n",
  each "control" (member "widget" "controls") (member "control" "uses_controller") [
    .text "    ", gap "control" "state_name", .text ".dispose();\n"],
  .text "    super.dispose();\n",
  .text "  \x7d\n",
  .text "\n",
  .text "  @override\n",
  .text "  Widget build(BuildContext context) \x7b\n",
  .text "    return Form(\n",
  .text "      key: _formKey,\n",
  .text "      child: Column(\n",
  .text "        children: [\n",
  each "control" (member "widget" "controls") always [
    .branch (.equal (member "control" "kind") (quote "toggle")) [
      .text "          SwitchListTile(\n",
      .text "            title: const Text('",
      .value (.member (member "control" "field") "label"), .text "'),\n",
      .text "            value: ", gap "control" "state_name", .text ",\n",
      .text "            onChanged: (value) => setState(() => ", gap "control" "state_name",
      .text " = value),\n",
      .text "          ),\n"] [
      .text "          TextFormField(\n",
      .text "            controller: ", gap "control" "state_name", .text ",\n",
      .text "            decoration: const InputDecoration(\n",
      .text "              labelText: '", .value (.member (member "control" "field") "label"),
      .text "',\n",
      .text "              border: OutlineInputBorder(),\n",
      when (.equal (member "control" "kind") (quote "date")) [
        .text "              suffixIcon: Icon(Icons.calendar_today),\n"],
      .text "            ),\n",
      .branch (.equal (member "control" "kind") (quote "number")) [
        .text "            keyboardType: TextInputType.number,\n"] [
        when (.equal (member "control" "kind") (quote "date")) [
          .text "            readOnly: true,\n",
          .text "            onTap: ", gap "control" "picker_name", .text ",\n"]],
      when (member "control" "validator_message") [
        .text "            validator: (value) =>\n",
        .text "                value == null || value.isEmpty ? '",
        gap "control" "validator_message", .text "' : null,\n"],
      .text "          ),\n"],
    .text "          const SizedBox(height: 16),\n"],
  .text "          ElevatedButton(\n",
  .text "            onPressed: _submitForm,\n",
  .text "            child: const Text('Submit'),\n",
  .text "          ),\n",
  .text "        ],\n",
  .text "      ),\n",
  .text "    );\n",
  .text "  \x7d\n",
  each "control" (member "widget" "controls")
      (.equal (member "control" "kind") (quote "date")) [
    .text "\n",
    .text "  Future<void> ", gap "control" "picker_name", .text "() async \x7b\n",
    .text "    final current = DateTime.tryParse(", gap "control" "state_name",
    .text ".text);\n",
    .text "    final picked = await showDatePicker(\n",
    .text "      context: context,\n",
    .text "      initialDate: current ?? DateTime.now(),\n",
    .text "      firstDate: DateTime(1900),\n",
    .text "      lastDate: DateTime(2100),\n",
    .text "    );\n",
    .text "    if (picked != null) \x7b\n",
    .text "      setState(() => ", gap "control" "state_name",
    .text ".text = picked.toIso8601String());\n",
    .text "    \x7d\n",
    .text "  \x7d\n"],
  .text "\n",
  .text "  bool _validateForm() \x7b\n",
  .text "    return _formKey.currentState?.validate() ?? false;\n",
  .text "  \x7d\n",
  .text "\n",
  .text "  void _submitForm() \x7b\n",
  .text "    if (_validateForm()) \x7b\n",
  .text "      final data = _buildFormData();\n",
  .text "      widget.onSubmit?.call(data);\n",
  .text "    \x7d\n",
  .text "  \x7d\n",
  .text "\n",
  .text "  Map<String, dynamic> _buildFormData() \x7b\n",
  .text "    // TODO: Build form data from controllers\n",
  .text "    return \x7b\x7d;\n",
  .text "  \x7d\n",
  .text "\x7d\n"]

end DartScaffold.Dart
