/-!
# Lenient decoding of UTF-8

Bytes that are no part of a character are replaced: each longest start of a
character that breaks off, and each byte that starts none, by one replacement
character.
-/

namespace DriverUplift.Text

def replacement : Char := '\ufffd'

def isContinuation (byte : UInt8) : Bool :=
  0x80 ≤ byte && byte ≤ 0xbf

/--
How many bytes follow a first byte, and the bounds of the one right behind it,
which exclude overlong forms, halves of pairs and numbers that are too large.
-/
def sequenceOf? (first : UInt8) : Option (Nat × UInt8 × UInt8) :=
  if 0xc2 ≤ first ∧ first ≤ 0xdf then some (1, 0x80, 0xbf)
  else if first = 0xe0 then some (2, 0xa0, 0xbf)
  else if first = 0xed then some (2, 0x80, 0x9f)
  else if 0xe1 ≤ first ∧ first ≤ 0xef then some (2, 0x80, 0xbf)
  else if first = 0xf0 then some (3, 0x90, 0xbf)
  else if first = 0xf4 then some (3, 0x80, 0x8f)
  else if 0xf1 ≤ first ∧ first ≤ 0xf3 then some (3, 0x80, 0xbf)
  else none

def leadingBits (first : UInt8) (following : Nat) : Nat :=
  first.toNat % Nat.pow 2 (6 - following)

structure Partial where
  bits : Nat
  missing : Nat
  low : UInt8
  high : UInt8

def decodeFrom : Option Partial → List UInt8 → List Char
  | none, [] => []
  | some _, [] => [replacement]
  | state, byte :: rest =>
      let start : List Char → List Char := fun broken =>
        if byte < 0x80 then broken ++ Char.ofNat byte.toNat :: decodeFrom none rest
        else
          match sequenceOf? byte with
          | some (following, low, high) =>
              broken ++ decodeFrom (some ⟨leadingBits byte following, following, low, high⟩) rest
          | none => broken ++ replacement :: decodeFrom none rest
      match state with
      | none => start []
      | some pending =>
          if pending.low ≤ byte ∧ byte ≤ pending.high then
            let bits := pending.bits * 64 + byte.toNat % 64
            if pending.missing = 1 then Char.ofNat bits :: decodeFrom none rest
            else decodeFrom (some ⟨bits, pending.missing - 1, 0x80, 0xbf⟩) rest
          else start [replacement]

def decodeLenient (bytes : ByteArray) : String :=
  String.ofList (decodeFrom none bytes.toList)

end DriverUplift.Text
