import DriverUplift.Http.Percent
import DriverUplift.Text.Composed
import DriverUplift.Text.Folding
import DriverUplift.Text.Punycode
import DriverUplift.Text.Split
import DriverUplift.Text.Utf8

/-!
# Hosts

The host of an address is a name or a number.  Names that mean the same have one
text: folded, composed, and with labels that go beyond ASCII encoded.  Numbers
are those of the fourth version of the internet protocol, in any of the forms
in which their parts may be written, and those of the sixth, in brackets.
-/

namespace DriverUplift.Http

inductive Host where
  | name (text : String)
  /-- A number of 32 bits. -/
  | v4 (number : Nat)
  /-- Eight numbers of 16 bits. -/
  | v6 (pieces : List Nat)
  deriving DecidableEq, Repr

namespace Host

def joinChars (separator : Char) : List (List Char) → List Char
  | [] => []
  | [part] => part
  | part :: parts => part ++ separator :: joinChars separator parts

/-! ## Names -/

def asciiLabel (label : List Char) : List Char :=
  if label.all (·.toNat < 0x80) then label
  else 'x' :: 'n' :: '-' :: '-' :: Text.Punycode.encode label

def asciiName (text : List Char) : List Char :=
  let plain := (Text.decodeFrom none (percentDecode text))
  let labels := Text.splitWhere (· == '.') (Text.composed (Text.folded plain))
  joinChars '.' (labels.map asciiLabel)

/-! ## Numbers of the fourth version -/

def baseNumber? (base : Nat) (digits : List Char) : Option Nat :=
  if digits.all fun c => c.isDigit && c.toNat - '0'.toNat < base then
    some (digits.foldl (fun n c => n * base + (c.toNat - '0'.toNat)) 0)
  else none

/-- The number that a part writes: hexadecimal behind `0x`, else octal behind `0`, else decimal. -/
def part? : List Char → Option Nat
  | [] => none
  | ['0'] => some 0
  | '0' :: mark :: digits =>
      if mark == 'x' || mark == 'X' then
        if digits.all Text.isHexDigit then some (Text.hexNumber digits) else none
      else baseNumber? 8 (mark :: digits)
  | digits => baseNumber? 10 digits

/-- The parts of a name; a dot may end it. -/
def partsOfName (name : List Char) : List (List Char) :=
  let parts := Text.splitWhere (· == '.') name
  if 1 < parts.length && parts.getLast? == some [] then parts.dropLast else parts

/-- Whether a part makes a name that it ends a number. -/
def isNumeric (part : List Char) : Bool :=
  (!part.isEmpty && part.all Char.isDigit) || (part? part).isSome

/-- The number of four bytes that numbers write: all but the last are bytes, and the last is the rest. -/
def ofParts : Nat → List Nat → Nat
  | _, [] => 0
  | _, [last] => last
  | weight, part :: parts => part * weight + ofParts (weight / 256) parts

def v4? (name : List Char) : Option Nat :=
  let parts := partsOfName name
  if (parts.getLast?.map isNumeric).getD false then
    (parts.mapM part?).map (ofParts (256 * 256 * 256))
  else none

def v4Text (number : Nat) : List Char :=
  joinChars '.' ([256 * 256 * 256, 256 * 256, 256, 1].map fun weight =>
    (toString (number / weight % 256)).toList)

/-! ## Numbers of the sixth version -/

/-- The pieces that a group writes: one, or two if it has the form of the fourth version. -/
def piecesOfGroup (group : List Char) : List Nat :=
  if group.contains '.' then
    let number := (v4? group).getD 0
    [number / (256 * 256), number % (256 * 256)]
  else [Text.hexNumber group]

/-- The eight pieces that a text writes; two colons in a row stand for as many zeros as are missing. -/
def v6Pieces (text : List Char) : List Nat :=
  let groups := Text.splitWhere (· == ':') text
  let front := (groups.takeWhile (!·.isEmpty)).flatMap piecesOfGroup
  let back := ((groups.dropWhile (!·.isEmpty)).filter (!·.isEmpty)).flatMap piecesOfGroup
  front ++ List.replicate (8 - front.length - back.length) 0 ++ back

def zerosAt (pieces : List Nat) (place : Nat) : Nat :=
  ((pieces.drop place).takeWhile (· == 0)).length

/-- The pieces with colons between them; the longest row of zeros is left out, the first if there are more. -/
def v6Text (pieces : List Nat) : List Char :=
  let place := (List.range pieces.length).foldl (fun best place =>
    if zerosAt pieces best < zerosAt pieces place then place else best) 0
  let write := fun part : List Nat => joinChars ':' (part.map Text.hex)
  if zerosAt pieces place < 2 then write pieces
  else
    write (pieces.take place) ++ ':' :: ':' :: write (pieces.drop (place + zerosAt pieces place))

/-! ## Texts of hosts -/

/-- The host that a text between brackets, or else one that the rest reads, means. -/
def ofChars (read : List Char → Host) : List Char → Host
  | '[' :: inside => .v6 (v6Pieces (inside.takeWhile (· != ']')))
  | text => read text

def ofName (text : List Char) : Host :=
  ofChars (fun text =>
    let name := asciiName text
    match v4? name with
    | some number => .v4 number
    | none => .name (String.ofList name)) text

/-- The host in an address of another scheme: what is not graphic ASCII is written by its bytes. -/
def ofLiteral (text : List Char) : Host :=
  ofChars (fun text => .name (String.ofList (percentEncode [] text))) text

def text : Host → String
  | name text => text
  | v4 number => String.ofList (v4Text number)
  | v6 pieces => String.ofList ('[' :: v6Text pieces ++ [']'])

end Host

end DriverUplift.Http
