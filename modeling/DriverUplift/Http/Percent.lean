import DriverUplift.Text.Hexadecimal

/-!
# Percent signs

Characters that may not stand in an address are written by their bytes, each as
a percent sign and two hexadecimal digits.
-/

namespace DriverUplift.Http

def bytesOfChar (c : Char) : List UInt8 :=
  (String.singleton c).toUTF8.toList

def percentByte (byte : UInt8) : List Char :=
  ['%', (Nat.digitChar (byte.toNat / 16)).toUpper, (Nat.digitChar (byte.toNat % 16)).toUpper]

/-- Write the characters of a set, and all that are not graphic ASCII, by their bytes. -/
def percentEncode (set : List Char) (text : List Char) : List Char :=
  text.flatMap fun c =>
    if c.toNat ≤ 0x20 || 0x7e < c.toNat || set.contains c then
      (bytesOfChar c).flatMap percentByte
    else [c]

def escapedByte? (c : Char) (behind : List Char) : Option UInt8 :=
  match c, behind with
  | '%', a :: b :: _ =>
      match Text.hexDigit? a, Text.hexDigit? b with
      | some high, some low => some (UInt8.ofNat (high * 16 + low))
      | _, _ => none
  | _, _ => none

/-- The bytes of a text, of which so many characters have been read already. -/
def percentDecodeFrom : Nat → List Char → List UInt8
  | _, [] => []
  | read + 1, _ :: text => percentDecodeFrom read text
  | 0, c :: text =>
      match escapedByte? c text with
      | some byte => byte :: percentDecodeFrom 2 text
      | none => bytesOfChar c ++ percentDecodeFrom 0 text

def percentDecode (text : List Char) : List UInt8 :=
  percentDecodeFrom 0 text

end DriverUplift.Http
