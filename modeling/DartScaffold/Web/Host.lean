/-
**Numeric hosts.**

A host between brackets is an address of version 6, or one of a version to come.  An address of
version 6 is eight groups of hexadecimal digits between colons; one run of empty groups may be left
out, and the last two groups may be written as four decimal numbers between points.

Main definitions:

* `Web.isFourPart` — addresses of version 4;
* `Web.isGrouped` — addresses of version 6 without a zone;
* `Web.isZoned` — addresses of version 6;
* `Web.isFuture` — addresses of a version to come.
-/

import DartScaffold.Text.Split

set_option relaxedAutoImplicit false
set_option autoImplicit false

namespace DartScaffold.Web

/-! ### Version 4 -/

/-- A decimal number below 256 that is written without needless zeros. -/
def isOctet (cs : List Char) : Bool :=
  !cs.isEmpty && cs.all Char.isDigit && cs.length ≤ 3 && (cs == ['0'] || cs.head? != some '0') &&
    cs.foldl (fun n c => 10 * n + (c.toNat - '0'.toNat)) 0 ≤ 255

/-- Whether a text is an address of version 4. -/
def isFourPart (cs : List Char) : Bool :=
  let parts := cs.splitOn '.'
  parts.length == 4 && parts.all isOctet

/-! ### Version 6 -/

/-- Whether a character is a hexadecimal digit. -/
def isHexDigit (c : Char) : Bool :=
  c.isDigit || ('a' ≤ c && c ≤ 'f') || ('A' ≤ c && c ≤ 'F')

/-- Whether a text is one group of an address. -/
def isGroup (cs : List Char) : Bool := !cs.isEmpty && cs.length ≤ 4 && cs.all isHexDigit

/-- The groups that a text writes between colons. -/
def groupsOf (cs : List Char) : List (List Char) := if cs.isEmpty then [] else cs.splitOn ':'

/-- How many groups a list of them stands for, if they are well formed: an address of version 4 in
the last place stands for two. -/
def countGroups : List (List Char) → Option Nat
  | [] => some 0
  | [g] => if isGroup g then some 1 else if isFourPart g then some 2 else none
  | g :: rest => if isGroup g then (countGroups rest).map (· + 1) else none

/-- Whether a text is an address of version 6 without a zone. -/
def isGrouped (cs : List Char) : Bool :=
  match Text.cutList? [':', ':'] cs with
  | none => countGroups (groupsOf cs) == some 8
  | some (high, low) =>
    (groupsOf high).all isGroup &&
      match countGroups (groupsOf low) with
      | some n => (groupsOf high).length + n ≤ 7
      | none => false

/-- Whether a text is an address of version 6.  A zone may follow it after a percent sign. -/
def isZoned (cs : List Char) : Bool :=
  match Text.cutList? ['%'] cs with
  | none => isGrouped cs
  | some (address, zone) => isGrouped address && !zone.isEmpty && !zone.contains '%'

/-! ### Versions to come -/

/-- Whether a text is an address of a version to come: the letter v, the version in hexadecimal, a
point and something more. -/
def isFuture : List Char → Bool
  | 'v' :: rest =>
    !(rest.takeWhile isHexDigit).isEmpty &&
      match rest.dropWhile isHexDigit with
      | '.' :: _ :: _ => true
      | _ => false
  | _ => false

end DartScaffold.Web
