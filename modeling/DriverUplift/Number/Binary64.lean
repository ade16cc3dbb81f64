/-!
# Double precision numbers

A finite double is a sign, a mantissa and a power of two.  Products and
quotients are computed exactly as rational numbers and then rounded to the
nearest double, a half going to the even neighbour; a result that is too large
for a finite double is `none`.
-/

namespace DriverUplift

/-- A finite double `± mantissa · 2 ^ exponent`; zero has a sign of its own. -/
structure Binary64 where
  negative : Bool
  mantissa : Nat
  exponent : Int
  deriving DecidableEq, Repr

namespace Binary64

def leastExponent : Int := -1074

def greatestExponent : Int := 971

def mantissaBits : Nat := 53

def mantissaBound : Nat := 9007199254740992

def magnitude (x : Binary64) : Rat :=
  x.mantissa * (2 : Rat) ^ x.exponent

def zero (negative : Bool) : Binary64 :=
  ⟨negative, 0, leastExponent⟩

def withSign (negative : Bool) (x : Binary64) : Binary64 :=
  { x with negative }

def same (x y : Binary64) : Bool :=
  x == y || (x.mantissa == 0 && y.mantissa == 0)

/-- The integer nearest to a non-negative number, a half going to the even one. -/
def roundHalfEven (q : Rat) : Nat :=
  let below := q.floor.toNat
  let excess := q - below
  if excess < 1 / 2 then below
  else if 1 / 2 < excess then below + 1
  else if below % 2 = 0 then below else below + 1

/-- The greatest power of two that is not above a positive number, as an exponent. -/
def binaryOrder (q : Rat) : Int :=
  let guess : Int := (q.num.natAbs.log2 : Int) - (q.den.log2 : Int)
  if (2 : Rat) ^ guess ≤ q then guess else guess - 1

/--
The double nearest to a non-negative number.  Rounding may carry into one more
bit, in which case the mantissa is the next power of two and halving it is
exact.
-/
def round (q : Rat) : Option Binary64 :=
  if q = 0 then some (zero false)
  else
    let place := max leastExponent (binaryOrder q - (mantissaBits - 1 : Nat))
    let mantissa := roundHalfEven (q / (2 : Rat) ^ place)
    let (mantissa, place) :=
      if mantissa = mantissaBound then (mantissa / 2, place + 1) else (mantissa, place)
    if greatestExponent < place then none else some ⟨false, mantissa, place⟩

def product (x y : Binary64) : Option Binary64 :=
  round (x.magnitude * y.magnitude)

def quotient (x y : Binary64) : Option Binary64 :=
  round (x.magnitude / y.magnitude)

def greatestTen : Nat := 308

def powerOfTen (n : Nat) : Option Binary64 :=
  round ((10 : Rat) ^ n)

def shrink : Nat → Binary64 → Option Binary64
  | 0, x => some x
  | steps + 1, x =>
      if x.mantissa = 0 then some x
      else
        match powerOfTen greatestTen with
        | none => none
        | some power =>
            match x.quotient power with
            | none => none
            | some smaller => shrink steps smaller

/--
Scale by a power of ten, rounding at every step: one product or quotient where
the power is a finite double, and before it as many quotients by the greatest
such power as the exponent asks for.  `none` is a number too large.
-/
def scaleByTen (x : Binary64) (exponent : Int) : Option Binary64 :=
  if 0 ≤ exponent then
    if exponent.toNat ≤ greatestTen then (powerOfTen exponent.toNat).bind x.product
    else if x.mantissa = 0 then some x
    else none
  else
    let down := (-exponent).toNat
    let steps := (down - 1) / greatestTen
    match shrink steps x with
    | none => none
    | some smaller => (powerOfTen (down - steps * greatestTen)).bind smaller.quotient

def ofDecimal (negative : Bool) (significand : Nat) (exponent : Int) : Option Binary64 :=
  match round significand with
  | none => none
  | some start => (scaleByTen start exponent).map (withSign negative)

end Binary64

end DriverUplift
