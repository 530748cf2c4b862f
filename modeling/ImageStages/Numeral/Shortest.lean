import ImageStages.Numeral.Binary64

namespace ImageStages.Binary64

/-! The shortest decimal that reads back as a given binary number.

The reals that round to a number form an interval around it, whose ends belong to
it exactly when the significand is even.  For a growing count of digits the two
neighbours of the number on the decimal grid are tried; the first grid with a
neighbour in the interval wins, and of two the nearer.  All arithmetic is on
natural numbers, in quarters of the last place of the significand. -/

structure Decimal where
  digits : Nat
  scale : Int
deriving DecidableEq

/-- A positive number with the interval that rounds to it, in quarters of the
significand's last place. -/
structure Neighbourhood where
  centre : Nat
  low : Nat
  high : Nat
  closed : Bool
  quarterExponent : Int

def neighbourhood (significand : Nat) (exponent : Int) : Neighbourhood where
  centre := 4 * significand
  low :=
    if significand = 1 <<< (significandBits - 1) ∧ leastExponent < exponent then
      4 * significand - 1
    else 4 * significand - 2
  high := 4 * significand + 2
  closed := significand % 2 = 0
  quarterExponent := exponent - 2

/-- Factors that bring quarters and multiples of `10 ^ scale` to one unit. -/
def commonUnit (quarterExponent scale : Int) : Nat × Nat :=
  (powerOfTen (-scale).toNat <<< quarterExponent.toNat,
    powerOfTen scale.toNat <<< (-quarterExponent).toNat)

def Neighbourhood.holds (around : Neighbourhood) (scale : Int) (candidate : Nat) : Bool :=
  let unit := commonUnit around.quarterExponent scale
  let point := candidate * unit.2
  let low := around.low * unit.1
  let high := around.high * unit.1
  if around.closed then low ≤ point && point ≤ high else low < point && point < high

/-- The decimal on the grid of `10 ^ scale` that lies in the interval, if any. -/
def Neighbourhood.onGrid? (around : Neighbourhood) (scale : Int) : Option Nat :=
  let unit := commonUnit around.quarterExponent scale
  let centre := around.centre * unit.1
  let below := centre / unit.2
  let above := below + 1
  let fromBelow := centre - below * unit.2
  let fromAbove := above * unit.2 - centre
  match around.holds scale below && below != 0, around.holds scale above with
  | true, true =>
      if fromBelow < fromAbove ∨ (fromBelow = fromAbove ∧ below % 2 = 0) then some below
      else some above
  | true, false => some below
  | false, true => some above
  | false, false => none

/-- The number of digits before the point: the least `place` with the number below
`10 ^ place`. -/
def Neighbourhood.place (around : Neighbourhood) : Int :=
  let guess : Int := (around.centre.log2 + around.quarterExponent) * 30103 / 100000
  let fits (place : Int) : Bool :=
    let unit := commonUnit around.quarterExponent place
    around.centre * unit.1 < unit.2
  if fits guess then guess
  else if fits (guess + 1) then guess + 1
  else guess + 2

/-- Drops trailing zeros of the digits; `fuel` bounds their count. -/
def Decimal.normal (fuel : Nat) (value : Decimal) : Decimal :=
  match fuel with
  | 0 => value
  | fuel + 1 =>
      if value.digits % 10 = 0 ∧ value.digits ≠ 0 then
        Decimal.normal fuel ⟨value.digits / 10, value.scale + 1⟩
      else value

/-- Every binary number is the nearest one to a decimal of this many digits. -/
def enoughDigits : Nat := 17

def Neighbourhood.shortest (around : Neighbourhood) : Decimal :=
  let place := around.place
  let scales := (List.range enoughDigits).map fun count => place - (count + 1 : Nat)
  let found := scales.findSome? fun scale =>
    (around.onGrid? scale).map fun digits => (⟨digits, scale⟩ : Decimal)
  (found.getD ⟨around.centre, 0⟩).normal (enoughDigits + 1)

/-- Decimal point positions that are written out; others take an exponent. -/
def leastPlace : Int := -3

def greatestPlace : Int := 16

def positional (digits : List Char) (place : Int) : List Char :=
  if place ≤ 0 then
    '0' :: '.' :: (List.replicate (-place).toNat '0' ++ digits)
  else
    let whole := digits.take place.toNat
    let fraction := digits.drop place.toNat
    whole ++ List.replicate (place.toNat - digits.length) '0' ++
      '.' :: (if fraction.isEmpty then ['0'] else fraction)

/-- Exponents have a sign and at least two digits. -/
def exponentText (exponent : Int) : List Char :=
  let digits := Nat.toDigits 10 exponent.natAbs
  (if exponent < 0 then '-' else '+') :: (List.replicate (2 - digits.length) '0' ++ digits)

def scientific (digits : List Char) (place : Int) : List Char :=
  digits.take 1 ++ (if digits.length ≤ 1 then [] else '.' :: digits.drop 1) ++
    'e' :: exponentText (place - 1)

def Decimal.shown (value : Decimal) : List Char :=
  let digits := Nat.toDigits 10 value.digits
  let place : Int := digits.length + value.scale
  if leastPlace ≤ place ∧ place ≤ greatestPlace then positional digits place
  else scientific digits place

structure SpecialNames where
  infinity : String
  notANumber : String

/-- The text of a number: its shortest decimal, with the sign in front. -/
def shown (names : SpecialNames) : Binary64 → String
  | .notANumber => names.notANumber
  | .infinite negative => (if negative then "-" else "") ++ names.infinity
  | .finite negative significand exponent =>
      (if negative then "-" else "") ++
        (if significand = 0 then "0.0"
        else String.ofList (neighbourhood significand exponent).shortest.shown)

end ImageStages.Binary64
