import ImageStages.Document.Basic
import ImageStages.Numeral.Literal
import ImageStages.Text.Quoted

namespace ImageStages

/-! Reading documents from JSON text.

Besides JSON proper, the numbers `NaN`, `Infinity` and `-Infinity` are read.  Of
fields with the same key the last value counts, at the place of the first.  What
cannot be read is reported with the place where reading stopped. -/

inductive Expectation where
  | value
  | propertyName
  | colon
  | comma
  | nothingMore
  | closingQuote
  | noControlCharacter
  | escapeLetter
  | hexEscape
  | noByteOrderMark
deriving DecidableEq

structure SyntaxFault where
  expected : Expectation
  index : Nat
deriving DecidableEq

inductive ReadFault where
  | syntaxFault (fault : SyntaxFault)
  | tooManyDigits (count : Nat)
deriving DecidableEq

namespace Expectation

def message : Expectation → String
  | .value => "Expecting value"
  | .propertyName => "Expecting property name enclosed in double quotes"
  | .colon => "Expecting ':' delimiter"
  | .comma => "Expecting ',' delimiter"
  | .nothingMore => "Extra data"
  | .closingQuote => "Unterminated string starting at"
  | .noControlCharacter => "Invalid control character at"
  | .escapeLetter => "Invalid \\escape"
  | .hexEscape => "Invalid \\uXXXX escape"
  | .noByteOrderMark => "Unexpected UTF-8 BOM (decode using utf-8-sig)"

end Expectation

namespace Json

structure Cursor where
  index : Nat
  rest : List Char

def stop (expected : Expectation) (index : Nat) : Except ReadFault α :=
  .error (.syntaxFault ⟨expected, index⟩)

def Cursor.skip (cursor : Cursor) (count : Nat) : Cursor :=
  ⟨cursor.index + count, cursor.rest.drop count⟩

def isSpace (c : Char) : Bool :=
  c == ' ' || c == '\t' || c == '\n' || c == '\r'

def Cursor.skipSpace (cursor : Cursor) : Cursor :=
  ⟨cursor.index + (cursor.rest.takeWhile isSpace).length, cursor.rest.dropWhile isSpace⟩

def integerDigitLimit : Nat := 4300

def hexUnit? (a b c d : Char) : Option Nat := do
  let a ← Literal.hexValue? a
  let b ← Literal.hexValue? b
  let c ← Literal.hexValue? c
  let d ← Literal.hexValue? d
  return ((a * 16 + b) * 16 + c) * 16 + d

def isHighSurrogate (unit : Nat) : Bool :=
  0xd800 ≤ unit && unit ≤ 0xdbff

def isLowSurrogate (unit : Nat) : Bool :=
  0xdc00 ≤ unit && unit ≤ 0xdfff

/-- The character of both halves of a pair. -/
def pairChar (high low : Nat) : CodePoint :=
  .ofNat (0x10000 + (high - 0xd800) * 0x400 + (low - 0xdc00))

def plainEscape? (c : Char) : Option Char :=
  if c = Text.doubleQuote ∨ c = '\\' ∨ c = '/' then some c
  else if c = 'b' then some '\x08'
  else if c = 'f' then some '\x0c'
  else if c = 'n' then some '\n'
  else if c = 'r' then some '\r'
  else if c = 't' then some '\t'
  else none

/-- The second half of a pair, when an escape of one stands next.  A malformed
escape in its place is reported by where it stands. -/
def lowHalf (index : Nat) : List Char → Except ReadFault (Option Nat)
  | '\\' :: 'u' :: a :: b :: c :: d :: _ :: _ =>
      match hexUnit? a b c d with
      | none => stop .hexEscape (index + 1)
      | some unit => .ok (if isLowSurrogate unit then some unit else none)
  | _ => .ok none

/-- Reads a text up to its closing quote.  `start` is the index of the opening
quote; the rest of the text is no longer than `fuel`. -/
def readChars (fuel start : Nat) (cursor : Cursor) : Except ReadFault (Text × Cursor) :=
  match fuel, cursor.rest with
  | 0, _ => stop .closingQuote start
  | _, [] => stop .closingQuote start
  | fuel + 1, c :: rest =>
      if c = Text.doubleQuote then .ok ([], ⟨cursor.index + 1, rest⟩)
      else if c = '\\' then
        match rest with
        | [] => stop .closingQuote start
        | 'u' :: a :: b :: c :: d :: next :: rest =>
            match hexUnit? a b c d with
            | none => stop .hexEscape (cursor.index + 1)
            | some unit => do
                let low ← if isHighSurrogate unit then lowHalf (cursor.index + 6) (next :: rest)
                  else .ok none
                match low with
                | some low => do
                    let (chars, cursor) ← readChars fuel start
                      ⟨cursor.index + 12, (next :: rest).drop 6⟩
                    return (pairChar unit low :: chars, cursor)
                | none => do
                    let (chars, cursor) ← readChars fuel start ⟨cursor.index + 6, next :: rest⟩
                    return (.ofNat unit :: chars, cursor)
        | letter :: rest =>
            if letter = 'u' then stop .hexEscape (cursor.index + 1)
            else
              match plainEscape? letter with
              | none => stop .escapeLetter cursor.index
              | some c => do
                  let (chars, cursor) ← readChars fuel start ⟨cursor.index + 2, rest⟩
                  return (.char c :: chars, cursor)
      else if c.toNat ≤ 0x1f then stop .noControlCharacter cursor.index
      else do
        let (chars, cursor) ← readChars fuel start ⟨cursor.index + 1, rest⟩
        return (.char c :: chars, cursor)

def readText (fuel : Nat) (cursor : Cursor) : Except ReadFault (Text × Cursor) :=
  readChars fuel (cursor.index - 1) cursor

/-- The whole part of a number: a zero, or digits that start with no zero. -/
def wholePart : List Char → List Char
  | '0' :: _ => ['0']
  | rest => rest.takeWhile Char.isDigit

def fractionPart : List Char → List Char
  | '.' :: rest => rest.takeWhile Char.isDigit
  | _ => []

/-- The sign and the digits of an exponent, when it has digits. -/
def exponentPart : List Char → Option (Bool × List Char)
  | [] => none
  | c :: rest =>
      if c = 'e' ∨ c = 'E' then
        let negative := rest.head? = some '-'
        let unsigned := if rest.head? = some '-' ∨ rest.head? = some '+' then rest.drop 1 else rest
        let digits := unsigned.takeWhile Char.isDigit
        if digits.isEmpty then none else some (negative, digits)
      else none

def exponentLength (rest : List Char) : Nat :=
  match exponentPart rest with
  | none => 0
  | some (_, digits) =>
      1 + digits.length +
        (match rest.drop 1 with
          | '-' :: _ => 1
          | '+' :: _ => 1
          | _ => 0)

def readMagnitude (negative : Bool) (start : Nat) (cursor : Cursor) :
    Except ReadFault (Document × Cursor) :=
  let whole := wholePart cursor.rest
  if whole.isEmpty then stop .value start
  else
    let afterWhole := cursor.skip whole.length
    let fraction := fractionPart afterWhole.rest
    let afterFraction :=
      if fraction.isEmpty then afterWhole else afterWhole.skip (fraction.length + 1)
    let exponent := exponentPart afterFraction.rest
    let afterExponent := afterFraction.skip (exponentLength afterFraction.rest)
    if fraction.isEmpty && exponent.isNone then
      if integerDigitLimit < whole.length then .error (.tooManyDigits whole.length)
      else
        let magnitude : Int := Nat.ofDigitChars 10 whole 0
        .ok (.int (if negative then -magnitude else magnitude), afterWhole)
    else
      let scale : Int :=
        match exponent with
        | none => 0
        | some (true, digits) => -(Nat.ofDigitChars 10 digits 0 : Int)
        | some (false, digits) => Nat.ofDigitChars 10 digits 0
      let digits := Nat.ofDigitChars 10 (whole ++ fraction) 0
      .ok (.real (Binary64.ofDecimal negative digits (scale - fraction.length)), afterExponent)

def dropWord? (word : List Char) (cursor : Cursor) : Option Cursor :=
  if word.isPrefixOf cursor.rest then some (cursor.skip word.length) else none

/-- The words that stand for values, in the order in which they are tried. -/
def namedValues : List (List Char × Document) := [
  ("null".toList, .null),
  ("true".toList, .bool true),
  ("false".toList, .bool false),
  ("NaN".toList, .real .notANumber),
  ("Infinity".toList, .real (.infinite false)),
  ("-Infinity".toList, .real (.infinite true))]

def readNamed? (cursor : Cursor) : Option (Document × Cursor) :=
  namedValues.findSome? fun named =>
    (dropWord? named.1 cursor).map fun cursor => (named.2, cursor)

def readSimple (cursor : Cursor) : Except ReadFault (Document × Cursor) :=
  match readNamed? cursor with
  | some found => .ok found
  | none =>
      match cursor.rest with
      | '-' :: rest => readMagnitude true cursor.index ⟨cursor.index + 1, rest⟩
      | _ => readMagnitude false cursor.index cursor

mutual

/-- Reads a value.  A character that is read uses up at most two units of fuel, so
twice the length of the text is enough. -/
def readValue (fuel : Nat) (cursor : Cursor) : Except ReadFault (Document × Cursor) :=
  match fuel with
  | 0 => stop .value cursor.index
  | fuel + 1 =>
      match cursor.rest with
      | '[' :: rest =>
          let inside := Cursor.skipSpace ⟨cursor.index + 1, rest⟩
          match inside.rest with
          | ']' :: rest => .ok (.list [], ⟨inside.index + 1, rest⟩)
          | _ => do
              let (items, cursor) ← readItems fuel inside
              return (.list items, cursor)
      | '\x7b' :: rest =>
          let inside := Cursor.skipSpace ⟨cursor.index + 1, rest⟩
          match inside.rest with
          | '\x7d' :: rest => .ok (.object [], ⟨inside.index + 1, rest⟩)
          | _ => do
              let (fields, cursor) ← readFields fuel inside
              return (.object (Fields.ofPairs fields), cursor)
      | '\x22' :: rest => do
          let (value, cursor) ← readText fuel ⟨cursor.index + 1, rest⟩
          return (.text value, cursor)
      | _ => readSimple cursor

def readItems (fuel : Nat) (cursor : Cursor) : Except ReadFault (List Document × Cursor) :=
  match fuel with
  | 0 => stop .value cursor.index
  | fuel + 1 => do
      let (item, cursor) ← readValue fuel cursor
      let cursor := cursor.skipSpace
      match cursor.rest with
      | ']' :: rest => return ([item], ⟨cursor.index + 1, rest⟩)
      | ',' :: rest => do
          let (items, cursor) ← readItems fuel (Cursor.skipSpace ⟨cursor.index + 1, rest⟩)
          return (item :: items, cursor)
      | _ => stop .comma cursor.index

def readFields (fuel : Nat) (cursor : Cursor) :
    Except ReadFault (List (Scalar × Document) × Cursor) :=
  match fuel with
  | 0 => stop .propertyName cursor.index
  | fuel + 1 =>
      match cursor.rest with
      | '\x22' :: rest => do
          let (key, cursor) ← readText fuel ⟨cursor.index + 1, rest⟩
          let cursor := cursor.skipSpace
          match cursor.rest with
          | ':' :: rest => do
              let (value, cursor) ← readValue fuel (Cursor.skipSpace ⟨cursor.index + 1, rest⟩)
              let cursor := cursor.skipSpace
              match cursor.rest with
              | '\x7d' :: rest => return ([(.text key, value)], ⟨cursor.index + 1, rest⟩)
              | ',' :: rest => do
                  let (fields, cursor) ← readFields fuel
                    (Cursor.skipSpace ⟨cursor.index + 1, rest⟩)
                  return ((.text key, value) :: fields, cursor)
              | _ => stop .comma cursor.index
          | _ => stop .colon cursor.index
      | _ => stop .propertyName cursor.index

end

def byteOrderMark : Char := '\ufeff'

def read (s : List Char) : Except ReadFault Document :=
  if s.head? = some byteOrderMark then stop .noByteOrderMark 0
  else do
    let (value, cursor) ← readValue (2 * s.length + 2) (Cursor.skipSpace ⟨0, s⟩)
    let cursor := cursor.skipSpace
    if cursor.rest.isEmpty then return value else stop .nothingMore cursor.index

end Json

def lineAndColumn (s : List Char) (index : Nat) : Nat × Nat :=
  let before := s.take index
  (before.count '\n' + 1, (before.reverse.takeWhile (· != '\n')).length + 1)

def SyntaxFault.message (fault : SyntaxFault) (s : List Char) : String :=
  let (line, column) := lineAndColumn s fault.index
  s!"{fault.expected.message}: line {line} column {column} (char {fault.index})"

end ImageStages
