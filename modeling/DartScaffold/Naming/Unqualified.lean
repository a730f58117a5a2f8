/-
**Names without their qualification.**

A model is named with the module or namespace it lives in, and the parts of such a name are set
apart by backslashes, colons or dots.  The unqualified name is what stands behind the last of
them.

Main definitions:

* `Naming.afterLast` — what stands behind the last occurrence of a character;
* `Naming.unqualified` — what is left when the three separators are cut one after another;
* `Naming.lastPiece` — the last of the pieces between any of the separators.
-/

import DartScaffold.Text.Split

set_option relaxedAutoImplicit false
set_option autoImplicit false

namespace DartScaffold.Naming

/-- What stands behind the last occurrence of a character; everything, if there is none. -/
def afterLast (c : Char) (cs : List Char) : List Char :=
  (cs.reverse.takeWhile (· != c)).reverse

/-- The name behind the last backslash, then behind the last colon, then behind the last dot. -/
def unqualified (name : String) : String :=
  String.ofList (afterLast '.' (afterLast ':' (afterLast '\\' name.toList)))

/-- A character that sets the parts of a qualified name apart. -/
def isSeparator (c : Char) : Bool := c == '\\' || c == '.' || c == ':'

/-- The last of the pieces between any of the separators. -/
def lastPiece (name : String) : String :=
  String.ofList ((name.toList.splitOnP isSeparator).getLast?.getD [])

end DartScaffold.Naming
