/-
**The template of services.**

The service of a model: the five usual operations on its collection, and a method for each further
route.

Main definitions:

* `Dart.bodyArgument` — the argument for the body of a request;
* `Dart.serviceTemplate` — the template of services.
-/

import DartScaffold.Dart.Templates.Header

set_option relaxedAutoImplicit false
set_option autoImplicit false

namespace DartScaffold.Dart

open Template

/-- The argument for the body of a request, if there is one. -/
def bodyArgument : Segment :=
  .value (.choose (member "method" "has_body")
    (.join (quote ", ") (member "method" "body_name")) (quote ""))

/-- The template of services. -/
def serviceTemplate : Template := [
  define "n" (member "service" "nullable_suffix"),
  define "model" (member "service" "model_class"),
  importLines "service",
  .text "\n",
  optionalLine "service" "doc",
  .text "class ", gap "service" "class_name", .text " \x7b\n",
  .text "  final ApiService _apiService;\n",
  .text "  final String _endpoint;\n",
  .text "\n",
  .text "  ", gap "service" "class_name", .text "(this._apiService, \x7bString endpoint = '",
  gap "service" "endpoint", .text "'\x7d)\n",
  .text "      : _endpoint = endpoint;\n",
  .text "\n",
  each "method" (member "service" "methods") always [
    optionalLine "method" "doc",
    .branch (.equal (member "method" "kind") (quote "get_all")) [
      .text "  Future<List<", .value (.name "model"), .text ">> getAll(\x7bint",
      .value (.name "n"), .text " page, Map<String, String>", .value (.name "n"),
      .text " filters\x7d) async \x7b\n",
      .text "    try \x7b\n",
      .text "      final queryParams = <String, String>\x7b\n",
      .text "        if (page != null) 'page': page.toString(),\n",
      .text "        ...?filters,\n",
      .text "      \x7d;\n",
      .text "      final response = await _apiService.get(_endpoint, queryParams: queryParams);\n",
      .text "      final items = ApiService.unwrap(response) as List<dynamic>;\n",
      .text "      return items\n",
      .text "          .map((json) => ", .value (.name "model"),
      .text ".fromJson(json as Map<String, dynamic>))\n",
      .text "          .toList();\n",
      .text "    \x7d catch (e) \x7b\n",
      .text "      throw ApiException('Failed to fetch ", .value (.name "model"),
      .text " list: $e');\n",
      .text "    \x7d\n",
      .text "  \x7d\n"] [
      .branch (.equal (member "method" "kind") (quote "get_by_id")) [
        .text "  Future<", .value (.name "model"), .text "> getById(int id) async \x7b\n",
        .text "    try \x7b\n",
        .text "      final response = await _apiService.get('$_endpoint/$id');\n",
        .text "      return ", .value (.name "model"),
        .text ".fromJson(ApiService.unwrap(response) as Map<String, dynamic>);\n",
        .text "    \x7d catch (e) \x7b\n",
        .text "      throw ApiException('Failed to fetch ", .value (.name "model"),
        .text " with ID $id: $e');\n",
        .text "    \x7d\n",
        .text "  \x7d\n"] [
        .branch (.equal (member "method" "kind") (quote "create")) [
          .text "  Future<", .value (.name "model"),
          .text "> create(Map<String, dynamic> data) async \x7b\n",
          .text "    try \x7b\n",
          .text "      final response = await _apiService.post(_endpoint, data);\n",
          .text "      return ", .value (.name "model"),
          .text ".fromJson(ApiService.unwrap(response) as Map<String, dynamic>);\n",
          .text "    \x7d catch (e) \x7b\n",
          .text "      throw ApiException('Failed to create ", .value (.name "model"),
          .text ": $e');\n",
          .text "    \x7d\n",
          .text "  \x7d\n"] [
          .branch (.equal (member "method" "kind") (quote "update")) [
            .text "  Future<", .value (.name "model"),
            .text "> update(int id, Map<String, dynamic> data) async \x7b\n",
            .text "    try \x7b\n",
            .text "      final response = await _apiService.put('$_endpoint/$id', data);\n",
            .text "      return ", .value (.name "model"),
            .text ".fromJson(ApiService.unwrap(response) as Map<String, dynamic>);\n",
            .text "    \x7d catch (e) \x7b\n",
            .text "      throw ApiException('Failed to update ", .value (.name "model"),
            .text " with ID $id: $e');\n",
            .text "    \x7d\n",
            .text "  \x7d\n"] [
            .branch (.equal (member "method" "kind") (quote "delete")) [
              .text "  Future<bool> delete(int id) async \x7b\n",
              .text "    try \x7b\n",
              .text "      await _apiService.delete('$_endpoint/$id');\n",
              .text "      return true;\n",
              .text "    \x7d catch (e) \x7b\n",
              .text "      throw ApiException('Failed to delete ", .value (.name "model"),
              .text " with ID $id: $e');\n",
              .text "    \x7d\n",
              .text "  \x7d\n"] [
              .text "  Future<", gap "method" "return_type", .text "> ", gap "method" "name",
              .text "(", gap "method" "signature", .text ") async \x7b\n",
              .text "    try \x7b\n",
              .branch (.equal (member "method" "returns") (quote "bool")) [
                .text "      await _apiService.", gap "method" "verb", .text "('",
                gap "method" "path", .text "'", bodyArgument, .text ");\n",
                .text "      return true;\n"] [
                .branch (.equal (member "method" "returns") (quote "single")) [
                  .text "      final response = await _apiService.", gap "method" "verb",
                  .text "('", gap "method" "path", .text "'", bodyArgument, .text ");\n",
                  .text "      return ", .value (.name "model"),
                  .text ".fromJson(ApiService.unwrap(response) as Map<String, dynamic>);\n"] [
                  .text "      final response = await _apiService.", gap "method" "verb",
                  .text "('", gap "method" "path", .text "'", bodyArgument, .text ");\n",
                  .text "      final items = ApiService.unwrap(response) as List<dynamic>;\n",
                  .text "      return items\n",
                  .text "          .map((json) => ", .value (.name "model"),
                  .text ".fromJson(json as Map<String, dynamic>))\n",
                  .text "          .toList();\n"]],
              .text "    \x7d catch (e) \x7b\n",
              .text "      throw ApiException('Failed to execute ", gap "method" "name",
              .text ": $e');\n",
              .text "    \x7d\n",
              .text "  \x7d\n"]]]]],
    when (.negate (member "loop" "last")) [.text "\n"]],
  .text "\x7d\n"]

end DartScaffold.Dart
