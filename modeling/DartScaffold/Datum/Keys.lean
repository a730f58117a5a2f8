/-
**Entries under values.**

The columns of a table and the casts of a model stand under keys that need not be texts.  Keys of
equal worth are one key: the number one is the same key whether it is written as a truth value, as a
whole number or with a point, but the text of it is another key.  Writing under a key that is there
already changes the entry and keeps the key as it was first written.

Main definitions:

* `Datum.putEntry`, `Datum.entriesOf` — writing an entry, and writing one after another;
* `Datum.valueAt?` — the entry under a key.
-/

import DartScaffold.Datum.Basic

set_option relaxedAutoImplicit false
set_option autoImplicit false

namespace DartScaffold.Datum

variable {α : Type}

/-- The entries with `value` under `key`: in its place if the key is present, else at the end. -/
def putEntry (key : Datum) (value : α) : Entries Datum α → Entries Datum α
  | [] => [(key, value)]
  | (k, v) :: rest => if k.same key then (k, value) :: rest else (k, v) :: putEntry key value rest

/-- The entries that writing the pairs one after another leaves. -/
def entriesOf (pairs : List (Datum × α)) : Entries Datum α :=
  pairs.foldl (fun entries e => putEntry e.1 e.2 entries) []

/-- The entry under a key. -/
def valueAt? (key : Datum) (entries : Entries Datum α) : Option α :=
  (entries.find? fun e => e.1.same key).map Prod.snd

theorem same_text (s : String) : (Datum.text s).same (.text s) = true := by simp [same]

end DartScaffold.Datum
