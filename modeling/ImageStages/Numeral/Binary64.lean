namespace ImageStages

/-! Binary floating point numbers of 64 bits, held exactly.

A finite number is a signed significand times a power of two, so that rounding,
comparison and truncation are statements about natural numbers.  Only reading a
decimal rounds; it goes to the nearest number and a tie goes to the even
significand. -/

inductive Binary64 where
  | finite (negative : Bool) (significand : Nat) (exponent : Int)
  | infinite (negative : Bool)
  | notANumber
deriving DecidableEq

namespace Binary64

/-- Significands have 53 bits, and no exponent is below -1074 or above 971. -/
def significandBits : Nat := 53

def leastExponent : Int := -1074

def greatestExponent : Int := 971

def zero (negative : Bool) : Binary64 := .finite negative 0 leastExponent

def powerOfTen (exponent : Nat) : Nat := Nat.pow 10 exponent

/-- The integer nearest to `numerator / denominator`; a tie goes to the even one. -/
def nearestEven (numerator denominator : Nat) : Nat :=
  let quotient := numerator / denominator
  let twiceRest := 2 * (numerator % denominator)
  if twiceRest < denominator then quotient
  else if denominator < twiceRest then quotient + 1
  else quotient + quotient % 2

/-- Scales a fraction by `2 ^ (-exponent)`, as a fraction of natural numbers. -/
def scaleDown (numerator denominator : Nat) (exponent : Int) : Nat × Nat :=
  if 0 ≤ exponent then (numerator, denominator <<< exponent.toNat)
  else (numerator <<< (-exponent).toNat, denominator)

/-- The exponent of the grid on which a positive fraction is rounded: its
significand then has all its bits, unless the least exponent is reached. -/
def gridExponent (numerator denominator : Nat) : Int :=
  let guess : Int := (numerator.log2 : Int) - (denominator.log2 : Int)
  let scaled := scaleDown numerator denominator guess
  let floorLog := if scaled.1 < scaled.2 then guess - 1 else guess
  max leastExponent (floorLog - (significandBits - 1))

/-- The number nearest to a fraction, infinite beyond the greatest exponent. -/
def ofFraction (negative : Bool) (numerator denominator : Nat) : Binary64 :=
  if numerator = 0 then zero negative
  else
    let exponent := gridExponent numerator denominator
    let scaled := scaleDown numerator denominator exponent
    let rounded := nearestEven scaled.1 scaled.2
    let overflowed := rounded = 1 <<< significandBits
    let significand := if overflowed then 1 <<< (significandBits - 1) else rounded
    let exponent := if overflowed then exponent + 1 else exponent
    if greatestExponent < exponent then .infinite negative
    else .finite negative significand exponent

/-- The number nearest to `digits * 10 ^ scale`.  Values that are out of reach
for every exponent are settled before any power of ten is computed. -/
def ofDecimal (negative : Bool) (digits : Nat) (scale : Int) : Binary64 :=
  let size : Int := (digits.log2 : Int) / 4 + scale
  if digits = 0 then zero negative
  else if 400 < size then .infinite negative
  else if (digits.log2 : Int) + scale < -400 then zero negative
  else if 0 ≤ scale then ofFraction negative (digits * powerOfTen scale.toNat) 1
  else ofFraction negative digits (powerOfTen (-scale).toNat)

def ofInt? (value : Int) : Option Binary64 :=
  match ofFraction (value < 0) value.natAbs 1 with
  | .infinite _ => none
  | number => some number

/-- The integer part, toward zero, of a finite number. -/
def truncate (negative : Bool) (significand : Nat) (exponent : Int) : Int :=
  let magnitude : Nat :=
    if 0 ≤ exponent then significand <<< exponent.toNat
    else significand >>> (-exponent).toNat
  if negative then -(magnitude : Int) else magnitude

/-- The number one on the grid of the least exponent. -/
def gridUnit : Nat := 1 <<< (-leastExponent).toNat

/-- Signed magnitude of a finite number on the grid of the least exponent. -/
def onLeastGrid (negative : Bool) (significand : Nat) (exponent : Int) : Int :=
  let magnitude : Nat := significand <<< (exponent - leastExponent).toNat
  if negative then -(magnitude : Int) else magnitude

/-- Equality of values: the two zeros are equal, and a number that is not one
equals nothing. -/
def same : Binary64 → Binary64 → Bool
  | .finite n s e, .finite n' s' e' => onLeastGrid n s e == onLeastGrid n' s' e'
  | .infinite n, .infinite n' => n == n'
  | _, _ => false

def sameInt : Binary64 → Int → Bool
  | .finite n s e, value => onLeastGrid n s e == value * gridUnit
  | _, _ => false

def isZero : Binary64 → Bool
  | .finite _ significand _ => significand == 0
  | _ => false

end Binary64

end ImageStages
