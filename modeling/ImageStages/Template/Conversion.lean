import ImageStages.Numeral.Places
import ImageStages.Template.Directive

namespace ImageStages.Template

/-- The text of a converted argument before it is laid out.  Texts may be cut to
the precision; numbers may have a sign and a radix mark in front. -/
inductive Converted where
  | text (body : Text)
  | number (negative : Bool) (mark body : List Char)

/-- The integer that a decimal conversion shows, cut off toward zero. -/
def wholeNumber (letter : CodePoint) (value : Document) : Except Fault Int :=
  match value with
  | .scalar (.real .notANumber) => .error (.mishap .notANumber)
  | .scalar (.real (.infinite _)) => .error (.mishap .infinite)
  | .scalar (.real (.finite negative significand exponent)) =>
      .ok (Binary64.truncate negative significand exponent)
  | .scalar scalar =>
      match scalar.int? with
      | some value => .ok value
      | none => .error (.needsNumber letter scalar.kind)
  | other => .error (.needsNumber letter other.kind)

def exactInteger (letter : CodePoint) (value : Document) : Except Fault Int :=
  match value with
  | .scalar scalar =>
      match scalar.int? with
      | some value => .ok value
      | none => .error (.needsInteger letter scalar.kind)
  | other => .error (.needsInteger letter other.kind)

def realNumber (value : Document) : Except Fault Binary64 :=
  match value with
  | .scalar (.real number) => .ok number
  | .scalar scalar =>
      match scalar.int? with
      | some value =>
          match Binary64.ofInt? value with
          | some number => .ok number
          | none => .error (.mishap (.outOfRange "int too large to convert to float"))
      | none => .error (.needsReal scalar.kind)
  | other => .error (.needsReal other.kind)

/-- Integers have at least as many digits as the precision says. -/
def integerBody (base : Nat) (precision : Option Nat) (value : Int) : List Char :=
  let digits := Nat.toDigits base value.natAbs
  List.replicate (precision.getD 0 - digits.length) '0' ++ digits

/-- The most digits that leave room for a sign and a radix mark within the range of
precisions. -/
def digitsLimit : Nat := precisionLimit - 3

def convertInteger (directive : Directive) (base : Nat) (mark : Char) (value : Int) :
    Except Fault Converted :=
  if directive.precision.any (digitsLimit < ·) then
    .error (.mishap (.outOfRange "precision too large"))
  else
    .ok (.number (value < 0)
      (if directive.flags.alternate && base != 10 then ['0', mark] else [])
      (integerBody base directive.precision value))

/-- The places after the point, six unless the directive tells.  With an exponent the
digit before the point is counted as well, and the greatest precision then passes the
range of precisions and counts as none. -/
def placesOf (directive : Directive) (style : Binary64.Notation) : Nat :=
  let places := directive.precision.getD 6
  if style = .exponent ∧ places = precisionLimit then 0 else places

def convertReal (directive : Directive) (style : Binary64.Notation) (value : Binary64) :
    List Char :=
  value.textWithPlaces style (placesOf directive style) directive.flags.alternate

def splitMinus : List Char → Converted
  | '-' :: body => .number true [] body
  | body => .number false [] body

def singleCharacter (value : Document) : Except Fault CodePoint :=
  match value with
  | .scalar (.text s) =>
      match s with
      | [c] => .ok c
      | _ => .error .needsCharacter
  | .scalar (.real _) => .error .needsCharacter
  | .scalar scalar =>
      match scalar.int? with
      | some code =>
          if code < 0 ∨ 0x110000 ≤ code then
            .error (.mishap (.outOfRange "%c arg not in range(0x110000)"))
          else .ok (.ofNat code.toNat)
      | none => .error .needsCharacter
  | _ => .error .needsCharacter

def upperChars (s : List Char) : List Char :=
  s.map Char.toUpper

/-- The digits of a number in upper case; its radix mark is so already. -/
def Converted.inUpperCase : Converted → Converted
  | .number negative mark body => .number negative mark (upperChars body)
  | .text body => .text body

def convert (directive : Directive) (value : Document) : Except Fault Converted :=
  let letter := directive.letter
  if letter = 's' then .ok (.text value.inText)
  else if letter = 'r' then .ok (.text (value.display .unicode))
  else if letter = 'a' then .ok (.text (value.display .ascii))
  else if letter = 'd' ∨ letter = 'i' ∨ letter = 'u' then
    wholeNumber letter value >>= convertInteger directive 10 'd'
  else if letter = 'o' then exactInteger letter value >>= convertInteger directive 8 'o'
  else if letter = 'x' then exactInteger letter value >>= convertInteger directive 16 'x'
  else if letter = 'X' then
    (exactInteger letter value >>= convertInteger directive 16 'X').map Converted.inUpperCase
  else if letter = 'e' then (realNumber value).map (splitMinus ∘ convertReal directive .exponent)
  else if letter = 'f' then (realNumber value).map (splitMinus ∘ convertReal directive .fixed)
  else if letter = 'g' then (realNumber value).map (splitMinus ∘ convertReal directive .general)
  else if letter = 'E' then
    (realNumber value).map (splitMinus ∘ upperChars ∘ convertReal directive .exponent)
  else if letter = 'F' then
    (realNumber value).map (splitMinus ∘ upperChars ∘ convertReal directive .fixed)
  else if letter = 'G' then
    (realNumber value).map (splitMinus ∘ upperChars ∘ convertReal directive .general)
  else if letter = 'c' then (singleCharacter value).map fun c => .text [c]
  else .error (.unknownConversion letter directive.index)

/-- The precision cuts texts, but not single characters. -/
def cutText (directive : Directive) (body : Text) : Text :=
  match directive.precision with
  | some precision => if directive.letter = 'c' then body else body.take precision
  | none => body

def signOf (flags : Flags) (negative : Bool) : List Char :=
  if negative then ['-']
  else if flags.signed then ['+']
  else if flags.blankForPlus then [' ']
  else []

/-- Fills up to the width: on the right if left adjusted, else with zeros between
the sign and the digits of a number, else with blanks on the left. -/
def layOut (directive : Directive) (converted : Converted) : Text :=
  let width := directive.width.getD 0
  match converted with
  | .text body =>
      let body := cutText directive body
      let fill : Text := List.replicate (width - body.length) ' '
      if directive.flags.leftAdjusted then body ++ fill else fill ++ body
  | .number negative mark body =>
      let front := signOf directive.flags negative ++ mark
      let missing := width - (front.length + body.length)
      Text.ofChars <|
        if directive.flags.leftAdjusted then front ++ body ++ List.replicate missing ' '
        else if directive.flags.zeroPadded then front ++ List.replicate missing '0' ++ body
        else List.replicate missing ' ' ++ front ++ body

end ImageStages.Template
