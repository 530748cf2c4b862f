import ImageStages.Text.CodePoint

namespace ImageStages

/-- Decimal notation: a minus sign for the negative integers and the digits without
leading zeros. -/
def decimalChars (value : Int) : List Char :=
  if value < 0 then '-' :: Nat.toDigits 10 value.natAbs else Nat.toDigits 10 value.natAbs

def decimal (value : Int) : String :=
  String.ofList (decimalChars value)

namespace Text

/-- White space around a number: the blanks of ASCII from the tab to the carriage
return, the space, and the separators and line breaks beyond ASCII. -/
def blankRanges : List (Nat × Nat) := [
  (0x9, 0xd), (0x20, 0x20), (0x85, 0x85), (0xa0, 0xa0), (0x1680, 0x1680),
  (0x2000, 0x200a), (0x2028, 0x2029), (0x202f, 0x202f), (0x205f, 0x205f), (0x3000, 0x3000)]

def isBlank (c : Char) : Bool :=
  inRanges blankRanges c.toNat

/-- Decimal digits of every script.  Each script has its ten digits in a row, so
the zeros determine all of them.  The table follows Unicode 14. -/
def digitZeros : List Nat := [
  0x30, 0x660, 0x6f0, 0x7c0, 0x966, 0x9e6, 0xa66, 0xae6, 0xb66, 0xbe6,
  0xc66, 0xce6, 0xd66, 0xde6, 0xe50, 0xed0, 0xf20, 0x1040, 0x1090, 0x17e0,
  0x1810, 0x1946, 0x19d0, 0x1a80, 0x1a90, 0x1b50, 0x1bb0, 0x1c40, 0x1c50, 0xa620,
  0xa8d0, 0xa900, 0xa9d0, 0xa9f0, 0xaa50, 0xabf0, 0xff10, 0x104a0, 0x10d30, 0x11066,
  0x110f0, 0x11136, 0x111d0, 0x112f0, 0x11450, 0x114d0, 0x11650, 0x116c0, 0x11730, 0x118e0,
  0x11950, 0x11c50, 0x11d50, 0x11da0, 0x16a60, 0x16ac0, 0x16b50, 0x1d7ce, 0x1d7d8, 0x1d7e2,
  0x1d7ec, 0x1d7f6, 0x1e140, 0x1e2f0, 0x1e950, 0x1fbf0]

def digitValue? (c : Char) : Option Nat :=
  (digitZeros.find? fun first => first ≤ c.toNat && c.toNat < first + 10).map (c.toNat - ·)

end Text

namespace Literal

/-! Integer literals in text.

A literal is a sign, digits with single underscores between them, and white space
around both.  The digits may be those of any script.  Hexadecimal literals may
carry `0x` after the sign, which one underscore may follow. -/

inductive Base where
  | decimal
  | hexadecimal
deriving DecidableEq

namespace Base

def value : Base → Nat
  | .decimal => 10
  | .hexadecimal => 16

/-- Only decimal literals have a limit on the count of their digits. -/
def digitLimit? : Base → Option Nat
  | .decimal => some 4300
  | .hexadecimal => none

end Base

inductive Fault where
  | malformed
  | tooManyDigits (count : Nat)
deriving DecidableEq

/-- Brings blanks and digits of any script to their ASCII form.  What remains
beyond ASCII belongs to no literal. -/
def plainChar : CodePoint → Char
  | .char c =>
      if c.toNat < 0x7f then c
      else if Text.isBlank c then ' '
      else match Text.digitValue? c with
        | some value => Nat.digitChar value
        | none => '?'
  | .surrogate _ => '?'

def hexValue? (c : Char) : Option Nat :=
  if '0' ≤ c ∧ c ≤ '9' then some (c.toNat - 0x30)
  else if 'a' ≤ c ∧ c ≤ 'f' then some (c.toNat - 0x61 + 10)
  else if 'A' ≤ c ∧ c ≤ 'F' then some (c.toNat - 0x41 + 10)
  else none

def digit? (base : Base) (c : Char) : Option Nat :=
  (hexValue? c).filter (· < base.value)

def splitSign : List Char → Bool × List Char
  | '+' :: rest => (false, rest)
  | '-' :: rest => (true, rest)
  | rest => (false, rest)

def dropRadixMark (base : Base) (s : List Char) : List Char :=
  match base, s with
  | .hexadecimal, '0' :: 'x' :: '_' :: rest => rest
  | .hexadecimal, '0' :: 'X' :: '_' :: rest => rest
  | .hexadecimal, '0' :: 'x' :: rest => rest
  | .hexadecimal, '0' :: 'X' :: rest => rest
  | _, s => s

/-- The digits of a run in which underscores stand only between two digits.
`afterDigit` tells whether a digit stands before. -/
def digitsOf (base : Base) (afterDigit : Bool) : List Char → Option (List Nat)
  | [] => if afterDigit then some [] else none
  | c :: rest =>
      if c = '_' then if afterDigit then digitsOf base false rest else none
      else match digit? base c with
        | some digit => (digitsOf base true rest).map (digit :: ·)
        | none => none

def ofDigits (base : Base) (digits : List Nat) : Nat :=
  digits.foldl (fun value digit => value * base.value + digit) 0

def isRunChar (base : Base) (c : Char) : Bool :=
  c == '_' || (digit? base c).isSome

def read (base : Base) (s : Text) : Except Fault Int :=
  let body := (s.map plainChar).dropWhile Text.isBlank
  let signed := splitSign body
  let unsigned := dropRadixMark base signed.2
  let run := unsigned.takeWhile (isRunChar base)
  let rest := unsigned.dropWhile (isRunChar base)
  match digitsOf base false run with
  | none => .error .malformed
  | some digits =>
      if base.digitLimit?.any (· < digits.length) then .error (.tooManyDigits digits.length)
      else if rest.all Text.isBlank then
        let magnitude : Int := ofDigits base digits
        .ok (if signed.1 then -magnitude else magnitude)
      else .error .malformed

end Literal

end ImageStages
