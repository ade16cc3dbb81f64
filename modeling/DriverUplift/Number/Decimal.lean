import DriverUplift.Number.Binary64

/-!
# Decimal text of doubles

The digits of a double are the fewest that read back to it.  They are written
out in full where the leading digit stands between the fifth place behind the
point and the sixteenth before it, and with a power of ten elsewhere.
-/

namespace DriverUplift

structure Decimal where
  digits : Nat
  exponent : Int
  deriving DecidableEq, Repr

namespace Decimal

def value (d : Decimal) : Rat :=
  d.digits * (10 : Rat) ^ d.exponent

def strip : Nat → Decimal → Decimal
  | 0, d => d
  | fuel + 1, d =>
      if d.digits ≠ 0 ∧ d.digits % 10 = 0 then
        strip fuel ⟨d.digits / 10, d.exponent + 1⟩
      else d

/-- The greatest power of ten that is not above a positive number, as an exponent. -/
def order (q : Rat) : Int :=
  let guess := (Binary64.binaryOrder q * 30103).fdiv 100000
  if (10 : Rat) ^ (guess + 1) ≤ q then guess + 1
  else if (10 : Rat) ^ guess ≤ q then guess
  else guess - 1

def roundingInterval (x : Binary64) : Rat × Rat :=
  let place := (2 : Rat) ^ x.exponent
  let atBinade := 2 * x.mantissa = Binary64.mantissaBound ∧
    Binary64.leastExponent < x.exponent
  (x.magnitude - place / (if atBinade then 4 else 2), x.magnitude + place / 2)

/-- Whether a number rounds to a positive double; the ends belong to even mantissas. -/
def roundsTo (x : Binary64) (q : Rat) : Bool :=
  let (low, high) := roundingInterval x
  if x.mantissa % 2 = 0 then low ≤ q && q ≤ high else low < q && q < high

/--
The number with so many digits that is nearest to a positive double and rounds
to it; of two equally near ones the even.
-/
def withDigits? (x : Binary64) (leading : Int) (count : Nat) : Option Decimal :=
  let place := leading - count + 1
  let below := (x.magnitude / (10 : Rat) ^ place).floor.toNat
  let low : Decimal := ⟨below, place⟩
  let high : Decimal := ⟨below + 1, place⟩
  match roundsTo x low.value, roundsTo x high.value with
  | false, false => none
  | true, false => some low
  | false, true => some high
  | true, true =>
      let left := x.magnitude - low.value
      let right := high.value - x.magnitude
      some (if left < right ∨ (left = right ∧ below % 2 = 0) then low else high)

def enoughDigits : Nat := 17

def shortest (x : Binary64) : Decimal :=
  if x.mantissa = 0 then ⟨0, 0⟩
  else
    let leading := order x.magnitude
    let found := (List.range enoughDigits).findSome? fun fewer =>
      withDigits? x leading (fewer + 1)
    strip enoughDigits (found.getD ⟨0, 0⟩)

def leastPlain : Int := -5

def greatestPlain : Int := 15

/-- The text of a decimal: always with a point or with a power of ten. -/
def text (d : Decimal) : List Char :=
  let digits := (toString d.digits).toList
  let leading := (digits.length : Int) - 1 + d.exponent
  if leading < leastPlain ∨ greatestPlain < leading then
    let sign := if 0 ≤ leading then ['+'] else ['-']
    let mantissa := match digits with
      | first :: second :: rest => first :: '.' :: second :: rest
      | short => short
    mantissa ++ 'e' :: sign ++ (toString leading.natAbs).toList
  else if 0 ≤ d.exponent then
    digits ++ List.replicate d.exponent.toNat '0' ++ ['.', '0']
  else if 0 ≤ leading then
    digits.take (leading.toNat + 1) ++ '.' :: digits.drop (leading.toNat + 1)
  else
    '0' :: '.' :: List.replicate (-leading - 1).toNat '0' ++ digits

end Decimal

namespace Binary64

def text (x : Binary64) : List Char :=
  if x.negative then '-' :: (Decimal.shortest x).text else (Decimal.shortest x).text

end Binary64

end DriverUplift
