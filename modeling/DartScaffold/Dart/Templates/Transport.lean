/-
**The template of the transport.**

The transport: requests with a time limit, a token if requests are authorized, and answers read from
JSON.

Main definitions:

* `Dart.transportTemplate` — the template of the transport.
-/

import DartScaffold.Dart.Templates.Header

set_option relaxedAutoImplicit false
set_option autoImplicit false

namespace DartScaffold.Dart

open Template

/-- The template of the transport. -/
def transportTemplate : Template := [
  define "n" (member "api" "nullable_suffix"),
  .text "import 'dart:async';\n",
  .text "import 'dart:convert';\n",
  .text "\n",
  .text "import 'package:http/http.dart' as http;\n",
  .text "\n",
  optionalLine "api" "doc_exception",
  .text "class ApiException implements Exception \x7b\n",
  .text "  final String message;\n",
  .text "  final int", .value (.name "n"), .text " statusCode;\n",
  .text "\n",
  .text "  const ApiException(this.message, \x7bthis.statusCode\x7d);\n",
  .text "\n",
  .text "  @override\n",
  .text "  String toString() => statusCode != null\n",
  .text "      ? 'ApiException($statusCode): $message'\n",
  .text "      : 'ApiException: $message';\n",
  .text "\x7d\n",
  .text "\n",
  optionalLine "api" "doc_service",
  .text "class ApiService \x7b\n",
  .text "  static const String baseUrl = '", gap "api" "base_url", .text "';\n",
  .text "  static const Duration timeout = Duration(seconds: ", gap "api" "timeout",
  .text ");\n",
  .text "\n",
  .text "  final http.Client _client;\n",
  when (.negate (.equal (member "api" "auth_type") (quote "none"))) [
    .text "  String", .value (.name "n"), .text " _authToken;\n"],
  .text "\n",
  .text "  ApiService(\x7bhttp.Client", .value (.name "n"),
  .text " client\x7d) : _client = client ?? http.Client();\n",
  .text "\n",
  when (.negate (.equal (member "api" "auth_type") (quote "none"))) [
    .text "  void setAuthToken(String", .value (.name "n"), .text " token) \x7b\n",
    .text "    _authToken = token;\n",
    .text "  \x7d\n",
    .text "\n"],
  .text "  Map<String, String> get _headers \x7b\n",
  .text "    final headers = <String, String>\x7b\n",
  .text "      'Content-Type': 'application/json',\n",
  .text "      'Accept': 'application/json',\n",
  .text "    \x7d;\n",
  when (.negate (.equal (member "api" "auth_type") (quote "none"))) [
    .text "\n",
    .text "    final token = _authToken;\n",
    .text "    if (token != null) \x7b\n",
    .text "      headers['", gap "api" "auth_header", .text "'] = '", gap "api" "auth_scheme",
    .text " $token';\n",
    .text "    \x7d\n"],
  .text "\n",
  .text "    return headers;\n",
  .text "  \x7d\n",
  .text "\n",
  .text "  /// Returns the `data` member of an enveloped response, or the response itself.\n",
  .text "  static dynamic unwrap(dynamic response) \x7b\n",
  .text "    if (response is Map<String, dynamic> && response.containsKey('data')) \x7b\n",
  .text "      return response['data'];\n",
  .text "    \x7d\n",
  .text "    return response;\n",
  .text "  \x7d\n",
  .text "\n",
  .text "  Future<dynamic> get(String endpoint, \x7bMap<String, String>", .value (.name "n"),
  .text " queryParams\x7d) async \x7b\n",
  .text "    final response = await _client\n",
  .text "        .get(_uri(endpoint, queryParams), headers: _headers)\n",
  .text "        .timeout(timeout);\n",
  .text "    return _handleResponse(response);\n",
  .text "  \x7d\n",
  .text "\n",
  .text "  Future<dynamic> post(String endpoint, [Map<String, dynamic>", .value (.name "n"),
  .text " data]) async \x7b\n",
  .text "    final response = await _client\n",
  .text "        .post(_uri(endpoint), headers: _headers, body: _encode(data))\n",
  .text "        .timeout(timeout);\n",
  .text "    return _handleResponse(response);\n",
  .text "  \x7d\n",
  .text "\n",
  .text "  Future<dynamic> put(String endpoint, [Map<String, dynamic>", .value (.name "n"),
  .text " data]) async \x7b\n",
  .text "    final response = await _client\n",
  .text "        .put(_uri(endpoint), headers: _headers, body: _encode(data))\n",
  .text "        .timeout(timeout);\n",
  .text "    return _handleResponse(response);\n",
  .text "  \x7d\n",
  .text "\n",
  .text "  Future<dynamic> patch(String endpoint, [Map<String, dynamic>", .value (.name "n"),
  .text " data]) async \x7b\n",
  .text "    final response = await _client\n",
  .text "        .patch(_uri(endpoint), headers: _headers, body: _encode(data))\n",
  .text "        .timeout(timeout);\n",
  .text "    return _handleResponse(response);\n",
  .text "  \x7d\n",
  .text "\n",
  .text "  Future<dynamic> delete(String endpoint) async \x7b\n",
  .text "    final response = await _client\n",
  .text "        .delete(_uri(endpoint), headers: _headers)\n",
  .text "        .timeout(timeout);\n",
  .text "    return _handleResponse(response);\n",
  .text "  \x7d\n",
  .text "\n",
  .text "  Uri _uri(String endpoint, [Map<String, String>", .value (.name "n"),
  .text " queryParams]) \x7b\n",
  .text "    final uri = Uri.parse('$baseUrl/$endpoint');\n",
  .text "    if (queryParams == null || queryParams.isEmpty) \x7b\n",
  .text "      return uri;\n",
  .text "    \x7d\n",
  .text "    return uri.replace(queryParameters: queryParams);\n",
  .text "  \x7d\n",
  .text "\n",
  .text "  String", .value (.name "n"), .text " _encode(Map<String, dynamic>",
  .value (.name "n"), .text " data) => data == null ? null : jsonEncode(data);\n",
  .text "\n",
  .text "  dynamic _handleResponse(http.Response response) \x7b\n",
  .text "    if (response.statusCode >= 200 && response.statusCode < 300) \x7b\n",
  .text "      return response.body.isEmpty ? null : jsonDecode(response.body);\n",
  .text "    \x7d\n",
  .text "    throw ApiException(\n",
  .text "      'HTTP $\x7bresponse.statusCode\x7d: $\x7bresponse.body\x7d',\n",
  .text "      statusCode: response.statusCode,\n",
  .text "    );\n",
  .text "  \x7d\n",
  .text "\n",
  .text "  void dispose() \x7b\n",
  .text "    _client.close();\n",
  .text "  \x7d\n",
  .text "\x7d\n"]

end DartScaffold.Dart
