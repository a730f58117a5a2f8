/-
**Plural and singular.**

A collection is named by the plural of its members' name, formed by a few rules on the last
letters: `es` after a hissing sound, `ies` for a `y` after a consonant, else `s`.  The singular is
formed by rules of its own on the ending of the plural.

Main definitions:

* `Naming.pluralize`, `Naming.singularize` — the two forms;
* `Naming.pluralOf`, `Naming.singularOf` — the same for any value of a document.
-/

import DartScaffold.Datum.Use
import DartScaffold.Naming.Words
import DartScaffold.Text.LetterCase

set_option relaxedAutoImplicit false
set_option autoImplicit false

namespace DartScaffold.Naming

/-- The word without its last `n` letters. -/
def dropEnd (n : Nat) (word : String) : String :=
  String.ofList (word.toList.take (word.length - n))

/-- The word ends with one of the given endings, in small letters. -/
def endsIn (endings : List String) (word : String) : Bool :=
  endings.any fun e => Text.endsWith e (Text.lower word)

/-- The word ends in a `y` that follows another letter, and that letter is no vowel. -/
def endsInConsonantY (word : String) : Bool :=
  match (Text.lower word).toList.reverse with
  | 'y' :: before :: _ => decide (1 < word.length) && !"aeiou".toList.contains before
  | _ => false

/-- The plural of a word. -/
def pluralize (word : String) : String :=
  if word = "" then ""
  else if endsIn ["s", "x", "z", "ch", "sh"] word then word ++ "es"
  else if endsInConsonantY word then dropEnd 1 word ++ "ies"
  else word ++ "s"

/-- The singular of a word. -/
def singularize (word : String) : String :=
  if endsIn ["ies"] word && decide (3 < word.length) then dropEnd 3 word ++ "y"
  else if endsIn ["ses", "xes", "zes", "ches", "shes"] word then dropEnd 2 word
  else if endsIn ["s"] word && !endsIn ["ss"] word then dropEnd 1 word
  else word

/-- The plural of a value: one that counts as nothing has an empty plural. -/
def pluralOf (d : Datum) : Except Misuse String :=
  if d.truthy then (d.textFor "lower").map pluralize else .ok ""

/-- The singular of a value. -/
def singularOf (d : Datum) : Except Misuse String := (d.textFor "lower").map singularize

end DartScaffold.Naming
