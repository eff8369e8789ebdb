set_option autoImplicit false

namespace BibEdit

/-- A double: nothing, an infinity, or a mantissa below 2 ^ 53 times a power of two. -/
inductive Binary64 where
  | nan
  | infinite (negative : Bool)
  | finite (negative : Bool) (mantissa : Nat) (exponent : Int)
  deriving DecidableEq

namespace Binary64

def mantissaLimit : Nat := Nat.pow 2 53

def leastExponent : Int := -1074

def mostExponent : Int := 971

def isZero : Binary64 -> Bool
  | finite _ mantissa _ => mantissa == 0
  | _ => false

/-- A quotient to the nearest natural number, a half to the even one. -/
def roundDiv (numerator denominator : Nat) : Nat :=
  let quotient := numerator / denominator
  let remainder := 2 * (numerator % denominator)
  if denominator < remainder || (remainder == denominator && quotient % 2 == 1)
  then quotient + 1 else quotient

theorem roundDiv_mul (quotient denominator : Nat) (positive : 0 < denominator) :
    roundDiv (quotient * denominator) denominator = quotient := by
  simp [roundDiv, Nat.mul_div_cancel _ positive]
  omega

def roundScaled (numerator denominator : Nat) (exponent : Int) : Nat :=
  if 0 <= exponent then roundDiv numerator (denominator * Nat.pow 2 exponent.toNat)
  else roundDiv (numerator * Nat.pow 2 (-exponent).toNat) denominator

def ofScaled (negative : Bool) (mantissa : Nat) (exponent : Int) : Binary64 :=
  let (mantissa, exponent) :=
    if mantissa == mantissaLimit then (mantissaLimit / 2, exponent + 1) else (mantissa, exponent)
  if mostExponent < exponent then infinite negative else finite negative mantissa exponent

def ofQuotient (negative : Bool) (numerator denominator : Nat) : Binary64 :=
  let guess : Int := (Nat.log2 numerator : Int) - Nat.log2 denominator - 52
  let above := max guess leastExponent
  let below := max (guess - 1) leastExponent
  let fine := roundScaled numerator denominator below
  if fine <= mantissaLimit then ofScaled negative fine below
  else ofScaled negative (roundScaled numerator denominator above) above

/-- Past these powers of ten every number is infinite or zero. -/
def mostPower : Int := 310

def leastPower : Int := -330

def ofDecimal (negative : Bool) (digits : Nat) (power : Int) : Binary64 :=
  let size : Int := (toString digits).length + power
  if digits == 0 || size < leastPower then finite negative 0 leastExponent
  else if mostPower < size then infinite negative
  else if 0 <= power then ofQuotient negative (digits * Nat.pow 10 power.toNat) 1
  else ofQuotient negative digits (Nat.pow 10 (-power).toNat)

end Binary64

end BibEdit
