/-
**Addresses on the web.**

A text is an address on the web if it names the scheme of the web and an authority.  Whatever
stands before the scheme and is no more than blank is dropped, and so are tabs and line breaks.  An
authority in which brackets do not match, hold no numeric host, or stand beside more than a name
before them and a port behind them, makes the text malformed, whatever its scheme.

Main definitions:

* `Web.schemeOf`, `Web.authorityOf`, `Web.placeOf` — the parts of an address;
* `Web.numericHost?` — the host of an authority with brackets;
* `Web.UrlFault` — why an authority is malformed;
* `Web.isUrl` — whether a text is an address on the web.
-/

import DartScaffold.Text.Quoted
import DartScaffold.Web.Host

set_option relaxedAutoImplicit false
set_option autoImplicit false

namespace DartScaffold.Web

/-! ### Parts -/

/-- The characters of an address that count. -/
def cleaned (cs : List Char) : List Char :=
  (cs.dropWhile fun c => c.toNat ≤ 0x20).filter fun c => c != '\t' && c != '\n' && c != '\r'

/-- Whether a character may stand in a scheme. -/
def isSchemeChar (c : Char) : Bool := c.isAlphanum || c == '+' || c == '-' || c == '.'

/-- The scheme, in small letters, and what follows it; an address may have no scheme. -/
def schemeOf (cs : List Char) : List Char × List Char :=
  match Text.cutList? [':'] cs with
  | some (name, rest) =>
    if (name.head?.map Char.isAlpha).getD false && name.all isSchemeChar then
      (name.map Char.toLower, rest)
    else ([], cs)
  | none => ([], cs)

/-- The authority: what stands between two slashes and the next part. -/
def authorityOf : List Char → List Char
  | '/' :: '/' :: rest => rest.takeWhile fun c => c != '/' && c != '?' && c != '#'
  | _ => []

/-- The place that an authority names: what stands behind its last at sign. -/
def placeOf (cs : List Char) : List Char :=
  match Text.cutList? ['@'] cs.reverse with
  | some (place, _) => place.reverse
  | none => cs

/-- The host of an authority with brackets: what stands between those of its place, or, if its place
has none, before a port.  Nothing may stand before the brackets, and only a port behind them. -/
def numericHost? (cs : List Char) : Option (List Char) :=
  match Text.cutList? ['['] (placeOf cs) with
  | none => some ((placeOf cs).takeWhile (· != ':'))
  | some (before, rest) =>
    let after := (rest.dropWhile (· != ']')).drop 1
    if before.isEmpty && (after.head?.getD ':') == ':' then some (rest.takeWhile (· != ']'))
    else none

/-! ### Malformed authorities -/

/-- The characters whose compatibility form holds a delimiter of addresses. -/
def lookalikes : List Nat := [
  0x2047, 0x2048, 0x2049, 0x2100, 0x2101, 0x2105, 0x2106, 0x2A74, 0xFE13, 0xFE16, 0xFE55, 0xFE56,
  0xFE5F, 0xFE6B, 0xFF03, 0xFF0F, 0xFF1A, 0xFF1F, 0xFF20]

/-- Why an authority is malformed. -/
inductive UrlFault where
  | unmatchedBracket
  | badFutureHost
  | fourPartHost
  | badHost (host : String)
  | lookalike (authority : String)
deriving DecidableEq, Repr

/-- The wording of a malformed authority. -/
def UrlFault.message : UrlFault → String
  | .unmatchedBracket => "Invalid IPv6 URL"
  | .badFutureHost => "IPvFuture address is invalid"
  | .fourPartHost => "An IPv4 address cannot be in brackets"
  | .badHost host => Text.quoted host ++ " does not appear to be an IPv4 or IPv6 address"
  | .lookalike authority =>
    "netloc '" ++ authority ++ "' contains invalid characters under NFKC normalization"

/-- What is wrong with a numeric host. -/
def hostFault? (host : List Char) : Option UrlFault :=
  if host.head? == some 'v' then if isFuture host then none else some .badFutureHost
  else if isFourPart host then some .fourPartHost
  else if isZoned host then none
  else some (.badHost (String.ofList host))

/-- What is wrong with an authority that has brackets. -/
def bracketFault? (cs : List Char) : Option UrlFault :=
  match numericHost? cs with
  | some host => hostFault? host
  | none => some .unmatchedBracket

/-- What is wrong with an authority. -/
def authorityFault? (cs : List Char) : Option UrlFault :=
  if cs.contains '[' != cs.contains ']' then some .unmatchedBracket
  else
    match (if cs.contains '[' then bracketFault? cs else none) with
    | some fault => some fault
    | none =>
      if cs.any fun c => lookalikes.contains c.toNat then some (.lookalike (String.ofList cs))
      else none

/-! ### Addresses -/

/-- Whether a text is an address on the web. -/
def isUrl (s : String) : Except UrlFault Bool :=
  let (scheme, rest) := schemeOf (cleaned s.toList)
  let authority := authorityOf rest
  match authorityFault? authority with
  | some fault => .error fault
  | none => .ok ((scheme == "http".toList || scheme == "https".toList) && !authority.isEmpty)

end DartScaffold.Web
