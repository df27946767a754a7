import SwiftInterface.Text.Quoted

/-!
# Reading UTF-8

Files are read as strict UTF-8.  When the bytes are not UTF-8 the fault names
the first bytes that cannot be read and says why.
-/

namespace SwiftInterface

namespace Text

/-- Why bytes cannot be read as UTF-8. -/
inductive Utf8Reason where
  | invalidStart
  | invalidContinuation
  | unexpectedEnd
deriving DecidableEq, Repr, Inhabited

/-- The wording of a reason. -/
def Utf8Reason.message : Utf8Reason → String
  | invalidStart => "invalid start byte"
  | invalidContinuation => "invalid continuation byte"
  | unexpectedEnd => "unexpected end of data"

/-- The bytes that cannot be read: their place, the first of them, their
number and the reason. -/
structure Utf8Fault where
  position : Nat
  byte : UInt8
  count : Nat
  reason : Utf8Reason
deriving DecidableEq, Repr, Inhabited

/-- The wording of a fault. -/
def Utf8Fault.message (fault : Utf8Fault) : String :=
  let place :=
    if fault.count ≤ 1 then
      "byte 0x" ++ String.ofList (hexDigits 2 fault.byte.toNat) ++
        " in position " ++ toString fault.position
    else
      "bytes in position " ++ toString fault.position ++ "-" ++
        toString (fault.position + fault.count - 1)
  "'utf-8' codec can't decode " ++ place ++ ": " ++ fault.reason.message

/-- Whether a byte may continue a character. -/
def isContinuation (byte : Nat) : Bool :=
  0x80 ≤ byte && byte ≤ 0xbf

/-- The number of bytes of the character that a byte starts. -/
def sequenceLength? (byte : Nat) : Option Nat :=
  if byte < 0x80 then some 1
  else if byte < 0xc2 then none
  else if byte < 0xe0 then some 2
  else if byte < 0xf0 then some 3
  else if byte < 0xf5 then some 4
  else none

/-- Whether a byte may be the second one after the given first byte. -/
def isSecond (first second : Nat) : Bool :=
  isContinuation second &&
    match first with
    | 0xe0 => 0xa0 ≤ second
    | 0xed => second < 0xa0
    | 0xf0 => 0x90 ≤ second
    | 0xf4 => second < 0x90
    | _ => true

/-- How many of the bytes after the first one go on with its character, at
most `wanted` of them. -/
def continuationCount (first : Nat) (wanted : Nat) (rest : List UInt8) : Nat :=
  match wanted, rest with
  | 0, _ => 0
  | _, [] => 0
  | wanted + 1, second :: others =>
      if isSecond first second.toNat then
        1 + ((others.take wanted).takeWhile
          fun byte => isContinuation byte.toNat).length
      else 0

/-- The first fault in bytes that start at a position.  Fuel is the number of
bytes. -/
def firstFault? : Nat → Nat → List UInt8 → Option Utf8Fault
  | 0, _, _ => none
  | _, _, [] => none
  | fuel + 1, position, byte :: rest =>
      match sequenceLength? byte.toNat with
      | none => some ⟨position, byte, 1, .invalidStart⟩
      | some size =>
          let wanted := size - 1
          let found := continuationCount byte.toNat wanted rest
          if found = wanted then
            firstFault? fuel (position + size) (rest.drop wanted)
          else
            let reason :=
              if rest.length = found then .unexpectedEnd
              else .invalidContinuation
            some ⟨position, byte, 1 + found, reason⟩

/-- The text that bytes spell, or the first fault in them. -/
def decodeUtf8 (bytes : ByteArray) : Except Utf8Fault String :=
  match String.fromUTF8? bytes with
  | some text => .ok text
  | none =>
      .error ((firstFault? bytes.size 0 bytes.toList).getD
        ⟨0, 0, 1, .invalidStart⟩)

/-- The bytes that spell a text. -/
def encodeUtf8 (text : String) : ByteArray :=
  text.toUTF8

end Text

end SwiftInterface
