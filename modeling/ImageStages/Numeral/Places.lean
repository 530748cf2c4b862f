import ImageStages.Numeral.Shortest

namespace ImageStages.Binary64

/-- How a number is written with a given count of decimal places: fixed, with an exponent,
or whichever of the two suits the size. -/
inductive Notation where
  | fixed
  | exponent
  | general
deriving DecidableEq

def fraction (significand : Nat) (exponent : Int) : Nat × Nat :=
  (significand <<< exponent.toNat, 1 <<< (-exponent).toNat)

/-- The digits of `magnitude * 10 ^ scale`, rounded. -/
def scaledDigits (significand : Nat) (exponent : Int) (scale : Int) : Nat :=
  let parts := fraction significand exponent
  nearestEven (parts.1 * powerOfTen scale.toNat) (parts.2 * powerOfTen (-scale).toNat)

def withPoint (digits : List Char) (places : Nat) (keepPoint : Bool) : List Char :=
  let padded := List.replicate (places + 1 - digits.length) '0' ++ digits
  let whole := padded.take (padded.length - places)
  let decimals := padded.drop (padded.length - places)
  if decimals.isEmpty && !keepPoint then whole else whole ++ '.' :: decimals

def fixedText (significand : Nat) (exponent : Int) (places : Nat) (keepPoint : Bool) :
    List Char :=
  withPoint (Nat.toDigits 10 (scaledDigits significand exponent places)) places keepPoint

/-- The decimal exponent of the leading digit after rounding to `places + 1` digits,
and those digits. -/
def leadingDigits (significand : Nat) (exponent : Int) (places : Nat) : Int × List Char :=
  if significand = 0 then (0, List.replicate (places + 1) '0')
  else
    let place := (neighbourhood significand exponent).place - 1
    let digits := Nat.toDigits 10 (scaledDigits significand exponent (places - place))
    if places + 1 < digits.length then (place + 1, digits.take (places + 1))
    else (place, digits)

def exponentNotation (leading : Int × List Char) (keepPoint : Bool) : List Char :=
  withPoint leading.2 (leading.2.length - 1) keepPoint ++ 'e' :: exponentText leading.1

def dropTrailingZeros (digits : List Char) : List Char :=
  (digits.reverse.dropWhile (· == '0')).reverse

/-- Of `digits` significant digits those that matter, all if `keepPoint` is set. -/
def generalText (significand : Nat) (exponent : Int) (digits : Nat) (keepPoint : Bool) :
    List Char :=
  let count := max digits 1
  let leading := leadingDigits significand exponent (count - 1)
  let shownDigits :=
    if keepPoint then leading.2
    else leading.2.take 1 ++ dropTrailingZeros (leading.2.drop 1)
  if -4 ≤ leading.1 ∧ leading.1 < count then
    if leading.1 < 0 then
      '0' :: '.' :: (List.replicate (-leading.1 - 1).toNat '0' ++ shownDigits)
    else
      let whole := leading.1.toNat + 1
      let padded := shownDigits ++ List.replicate (whole - shownDigits.length) '0'
      withPoint padded (padded.length - whole) keepPoint
  else exponentNotation (leading.1, shownDigits) keepPoint

def magnitudeText (style : Notation) (places : Nat) (keepPoint : Bool) (significand : Nat)
    (exponent : Int) : List Char :=
  match style with
  | .fixed => fixedText significand exponent places keepPoint
  | .exponent => exponentNotation (leadingDigits significand exponent places) keepPoint
  | .general => generalText significand exponent places keepPoint

def textWithPlaces (style : Notation) (places : Nat) (keepPoint : Bool) :
    Binary64 → List Char
  | .notANumber => "nan".toList
  | .infinite negative => (if negative then ['-'] else []) ++ "inf".toList
  | .finite negative significand exponent =>
      (if negative then ['-'] else []) ++
        magnitudeText style places keepPoint significand exponent

end ImageStages.Binary64
