import BibEdit.Decimal.Binary64

set_option autoImplicit false

namespace BibEdit.Decimal

/-- A positive decimal number: `digits` times ten to the `power`. -/
structure Number where
  digits : Nat
  power : Int
  deriving DecidableEq

/-- A double and its distances to the ends of what rounds to it, over one denominator; the ends
belong to it if it is closed. -/
structure Interval where
  value : Nat
  below : Nat
  above : Nat
  denominator : Nat
  closed : Bool

def intervalOf (mantissa : Nat) (exponent : Int) : Interval :=
  let scale := Nat.pow 2 exponent.toNat
  let below := if mantissa == Binary64.mantissaLimit / 2 && Binary64.leastExponent < exponent
    then 1 else 2
  { value := 4 * mantissa * scale
    below := below * scale
    above := 2 * scale
    denominator := 4 * Nat.pow 2 (-exponent).toNat
    closed := mantissa % 2 == 0 }

def Interval.holds (interval : Interval) (numerator denominator : Nat) : Bool :=
  let point := numerator * interval.denominator
  let low := (interval.value - interval.below) * denominator
  let high := (interval.value + interval.above) * denominator
  (low < point && point < high) || (interval.closed && (point == low || point == high))

def Number.numerator (number : Number) : Nat := number.digits * Nat.pow 10 number.power.toNat

def Number.denominator (number : Number) : Nat := Nat.pow 10 (-number.power).toNat

/-- The number of digits before the point, or minus the number of zeros after it. -/
def magnitude (value denominator : Nat) : Int :=
  let guess : Int := (toString value).length - (toString denominator).length
  let reaches : Bool :=
    if 0 <= guess then denominator * Nat.pow 10 guess.toNat <= value
    else denominator <= value * Nat.pow 10 (-guess).toNat
  if reaches then guess + 1 else guess

def floorAt (value denominator : Nat) (power : Int) : Nat × Nat × Nat :=
  let top := value * Nat.pow 10 (-power).toNat
  let bottom := denominator * Nat.pow 10 power.toNat
  (top / bottom, top % bottom, bottom)

def candidate? (interval : Interval) (power : Int) : Option Number :=
  let (low, remainder, bottom) := floorAt interval.value interval.denominator power
  let fits (digits : Nat) : Bool :=
    interval.holds (Number.numerator ⟨digits, power⟩) (Number.denominator ⟨digits, power⟩)
  let nearerLow := 2 * remainder < bottom || (2 * remainder == bottom && low % 2 == 0)
  match fits low, fits (low + 1) with
  | true, true => some ⟨if nearerLow then low else low + 1, power⟩
  | true, false => some ⟨low, power⟩
  | false, true => some ⟨low + 1, power⟩
  | false, false => none

def shortestFrom (interval : Interval) (magnitude : Int) : Nat -> Nat -> Number
  | 0, places => ⟨(floorAt interval.value interval.denominator (magnitude - places)).1,
      magnitude - places⟩
  | tries + 1, places =>
    match candidate? interval (magnitude - places) with
    | some number => number
    | none => shortestFrom interval magnitude tries (places + 1)

/-- The fewest digits that read back as the double, and of those the nearest. -/
def shortest (mantissa : Nat) (exponent : Int) : Number :=
  let interval := intervalOf mantissa exponent
  shortestFrom interval (magnitude interval.value interval.denominator) 17 1

def rounded (places : Nat) (mantissa : Nat) (exponent : Int) : Number :=
  let value := mantissa * Nat.pow 2 exponent.toNat
  let denominator := Nat.pow 2 (-exponent).toNat
  let power := magnitude value denominator - places
  let (low, remainder, bottom) := floorAt value denominator power
  ⟨if bottom <= 2 * remainder then low + 1 else low, power⟩

structure Layout where
  /-- Numbers of at most so many digits before the point are written without an exponent. -/
  most : Int
  /-- Whether a mantissa without a fraction gets one before an exponent. -/
  pointBeforeExponent : Bool

def leastPositional : Int := -3

def zeros (count : Int) : List Char := List.replicate count.toNat '0'

def trimZeros (digits : List Char) : List Char := (digits.reverse.dropWhile (· == '0')).reverse

def exponentText (exponent : Int) : List Char :=
  let digits := (toString exponent.natAbs).toList
  'e' :: (if exponent < 0 then '-' else '+') :: (zeros (2 - digits.length) ++ digits)

def fraction (digits : List Char) : List Char := if digits.isEmpty then ['0'] else digits

def Layout.write (layout : Layout) (number : Number) : List Char :=
  let written := (toString number.digits).toList
  let point := (written.length : Int) + number.power
  let digits := trimZeros written
  if leastPositional <= point && point <= layout.most then
    if point <= 0 then '0' :: '.' :: (zeros (-point) ++ digits)
    else
      let whole := digits.take point.toNat
      whole ++ zeros (point - whole.length) ++ '.' :: fraction (digits.drop point.toNat)
  else
    let rest := digits.drop 1
    let tail := if rest.isEmpty && !layout.pointBeforeExponent then [] else '.' :: fraction rest
    digits.take 1 ++ tail ++ exponentText (point - 1)

end BibEdit.Decimal
