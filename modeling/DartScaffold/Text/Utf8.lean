/-
**Texts in files.**

A file holds bytes, and its text is what they write in UTF-8.  Bytes that write no text are refused
where the first character that cannot be completed begins, with the reason: no character begins
with the byte, a byte does not continue the character, or the file ends within it.

Main definitions:

* `Text.Utf8.Fault`, `Text.Utf8.Fault.message` — why bytes are no text;
* `Text.Utf8.step` — the character at the beginning of some bytes;
* `Text.Utf8.decode` — the characters of all bytes.
-/

set_option relaxedAutoImplicit false
set_option autoImplicit false

namespace DartScaffold.Text.Utf8

/-- Why a byte sequence is refused. -/
inductive Reason where
  | badStart
  | badContinuation
  | cutOff
deriving DecidableEq, Repr

/-- The wording of a reason. -/
def Reason.message : Reason → String
  | .badStart => "invalid start byte"
  | .badContinuation => "invalid continuation byte"
  | .cutOff => "unexpected end of data"

/-- A refused sequence: the number of bytes before it, its bytes, and the reason. -/
structure Fault where
  position : Nat
  bytes : List UInt8
  reason : Reason
deriving DecidableEq, Repr

/-- The wording of a refusal. -/
def Fault.message (f : Fault) : String :=
  let place :=
    match f.bytes with
    | [b] =>
      "byte 0x" ++ String.ofList [Nat.digitChar (b.toNat / 16), Nat.digitChar (b.toNat % 16)] ++
        " in position " ++ toString f.position
    | bs =>
      "bytes in position " ++ toString f.position ++ "-" ++
        toString (f.position + bs.length - 1)
  "'utf-8' codec can't decode " ++ place ++ ": " ++ f.reason.message

/-- A byte that continues a character. -/
def isContinuation (b : UInt8) : Bool := 0x80 ≤ b && b < 0xC0

/-- The number of continuing bytes that a first byte asks for, and the least and greatest second
byte. -/
def shape? (b : UInt8) : Option (Nat × UInt8 × UInt8) :=
  if b < 0xC2 then none
  else if b < 0xE0 then some (1, 0x80, 0xBF)
  else if b = 0xE0 then some (2, 0xA0, 0xBF)
  else if b = 0xED then some (2, 0x80, 0x9F)
  else if b < 0xF0 then some (2, 0x80, 0xBF)
  else if b = 0xF0 then some (3, 0x90, 0xBF)
  else if b < 0xF4 then some (3, 0x80, 0xBF)
  else if b = 0xF4 then some (3, 0x80, 0x8F)
  else none

/-- The payload of a first byte followed by a number of continuing ones. -/
def leadBits (count : Nat) (b : UInt8) : Nat :=
  b.toNat % (if count = 1 then 32 else if count = 2 then 16 else 8)

/-- The character that begins with the byte `b`: its code point and the number of bytes behind
`b`, or the number of bytes to blame, with the reason. -/
def step (b : UInt8) (rest : List UInt8) : Except (Nat × Reason) (Nat × Nat) :=
  if b < 0x80 then .ok (b.toNat, 0)
  else match shape? b with
    | none => .error (1, .badStart)
    | some (count, least, greatest) =>
      let followers := rest.take count
      let good :=
        match followers with
        | [] => []
        | second :: more =>
          if least ≤ second && second ≤ greatest then second :: more.takeWhile isContinuation
          else []
      if good.length < followers.length then .error (1 + good.length, .badContinuation)
      else if followers.length < count then .error (1 + followers.length, .cutOff)
      else .ok (good.foldl (fun n c => n * 64 + c.toNat % 64) (leadBits count b), count)

/-- The characters of the bytes behind the first `skip` ones, of which `position` came before. -/
def decodeFrom (position : Nat) : (skip : Nat) → List UInt8 → Except Fault (List Char)
  | _, [] => .ok []
  | skip + 1, _ :: rest => decodeFrom (position + 1) skip rest
  | 0, b :: rest =>
    match step b rest with
    | .error (count, reason) => .error ⟨position, (b :: rest).take count, reason⟩
    | .ok (code, count) => do
      return Char.ofNat code :: (← decodeFrom (position + 1) count rest)

/-- The text that bytes write. -/
def decode (bytes : List UInt8) : Except Fault String := do
  return String.ofList (← decodeFrom 0 0 bytes)

end DartScaffold.Text.Utf8
