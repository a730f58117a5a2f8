/-
**Values that stand for a mapping.**

A mapping is given by an object, or by the pairs of a key and a value that make it up.  A pair is a
list of two items, a text of two characters, or an object with two members, whose names are meant.

Main definitions:

* `Datum.pairOf` — the pair that an item stands for;
* `Datum.mapping`, `Datum.mappingOrNone` — the entries of the mapping that a value stands for.
-/

import DartScaffold.Datum.Keys
import DartScaffold.Datum.Use

set_option relaxedAutoImplicit false
set_option autoImplicit false

namespace DartScaffold.Datum

/-- The pair of a key and a value that an item stands for. -/
def pairOf (d : Datum) : Except Misuse (Datum × Datum) := do
  match d with
  | .list [k, v] => if k.hashable then return (k, v) else throw (.unhashable k.kindName)
  | .text s =>
    match s.toList with
    | [k, v] => return (.text (String.singleton k), .text (String.singleton v))
    | cs => throw (.badPair cs.length)
  | .object [(k, _), (v, _)] => return (.text k, .text v)
  | .list ds => throw (.badPair ds.length)
  | .object ms => throw (.badPair ms.length)
  | _ => throw (.unfit "cannot convert dictionary update sequence element #0 to a sequence")

/-- The entries of an object, or of the pairs that stand for one. -/
def mapping (d : Datum) : Except Misuse (Entries Datum Datum) := do
  match d with
  | .object members => return members.map fun (k, v) => (.text k, v)
  | d => return entriesOf (← (← d.items).mapM pairOf)

/-- The entries of a mapping; a value that counts as nothing has none. -/
def mappingOrNone (d : Datum) : Except Misuse (Entries Datum Datum) :=
  if d.truthy then d.mapping else .ok []

end DartScaffold.Datum
