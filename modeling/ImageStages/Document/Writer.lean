import ImageStages.Document.Basic
import ImageStages.Numeral.Literal
import ImageStages.Numeral.Shortest
import ImageStages.Text.Quoted

namespace ImageStages

/-! Documents as JSON text.

Fields keep their order.  The laid out form is pure ASCII, since every other code point is
escaped by its UTF-16 units, and puts each item and field on a line of its own, two columns
deeper than what holds it.  The form in one line leaves what is beyond ASCII as it is. -/

/-- Numbers without a decimal form, as JSON files spell them. -/
def jsonNames : Binary64.SpecialNames := ⟨"Infinity", "NaN"⟩

def unitEscape (unit : Nat) : List Char :=
  '\\' :: 'u' :: Text.hexDigits 4 unit

def utf16Units (code : Nat) : List Nat :=
  if code < 0x10000 then [code]
  else [0xd800 + (code - 0x10000) / 0x400, 0xdc00 + (code - 0x10000) % 0x400]

/-- How a character is written that has a short form: itself, or the letter of an
escape. -/
def plainJson? (c : Char) : Option (List Char) :=
  if c = Text.doubleQuote ∨ c = '\\' then some ['\\', c]
  else if c = '\n' then some ['\\', 'n']
  else if c = '\r' then some ['\\', 'r']
  else if c = '\t' then some ['\\', 't']
  else if c.toNat = 0x0c then some ['\\', 'f']
  else if c.toNat = 0x08 then some ['\\', 'b']
  else if Text.isPrintableAscii c then some [c]
  else none

def jsonChar (c : CodePoint) : List Char :=
  (c.char?.bind plainJson?).getD ((utf16Units c.toNat).flatMap unitEscape)

def jsonText (s : Text) : List Char :=
  Text.doubleQuote :: s.flatMap jsonChar ++ [Text.doubleQuote]

def Scalar.json : Scalar → List Char
  | .null => "null".toList
  | .bool value => (if value then "true" else "false").toList
  | .int value => decimalChars value
  | .real value => (value.shown jsonNames).toList
  | .text value => jsonText value

/-- The key of a field is a text whatever the scalar is. -/
def Scalar.jsonKey : Scalar → List Char
  | .text value => jsonText value
  | other => Text.doubleQuote :: other.json ++ [Text.doubleQuote]

/-- The in-line form escapes only what has to be. -/
def inLineChar (c : CodePoint) : Text :=
  if c.toNat < 0x20 ∨ c = Text.doubleQuote ∨ c = '\\' then Text.ofChars (jsonChar c) else [c]

def inLineText (s : Text) : Text :=
  .char Text.doubleQuote :: s.flatMap inLineChar ++ [.char Text.doubleQuote]

def Scalar.jsonInLine : Scalar → Text
  | .text value => inLineText value
  | other => Text.ofChars other.json

def Scalar.keyInLine : Scalar → Text
  | .text value => inLineText value
  | other => Text.ofChars other.jsonKey

def newLine (depth : Nat) : List Char :=
  '\n' :: List.replicate (2 * depth) ' '

namespace Document

mutual

def laidOut (depth : Nat) : Document → List Char
  | .scalar value => value.json
  | .list [] => ['[', ']']
  | .list items => '[' :: laidOutItems (depth + 1) items ++ newLine depth ++ [']']
  | .object [] => ['\x7b', '\x7d']
  | .object fields => '\x7b' :: laidOutFields (depth + 1) fields ++ newLine depth ++ ['\x7d']

def laidOutItems (depth : Nat) : List Document → List Char
  | [] => []
  | [item] => newLine depth ++ laidOut depth item
  | item :: rest => newLine depth ++ laidOut depth item ++ ',' :: laidOutItems depth rest

def laidOutFields (depth : Nat) : List (Scalar × Document) → List Char
  | [] => []
  | [(key, value)] => newLine depth ++ key.jsonKey ++ ':' :: ' ' :: laidOut depth value
  | (key, value) :: rest =>
      newLine depth ++ key.jsonKey ++ ':' :: ' ' :: laidOut depth value ++
        ',' :: laidOutFields depth rest

end

mutual

def inLine : Document → Text
  | .scalar value => value.jsonInLine
  | .list items => .char '[' :: inLineItems items ++ [.char ']']
  | .object fields => .char '\x7b' :: inLineFields fields ++ [.char '\x7d']

def inLineItems : List Document → Text
  | [] => []
  | [item] => inLine item
  | item :: rest => inLine item ++ .char ',' :: .char ' ' :: inLineItems rest

def inLineFields : List (Scalar × Document) → Text
  | [] => []
  | [(key, value)] => key.keyInLine ++ .char ':' :: .char ' ' :: inLine value
  | (key, value) :: rest =>
      key.keyInLine ++ .char ':' :: .char ' ' :: inLine value ++
        .char ',' :: .char ' ' :: inLineFields rest

end

def toLaidOut (value : Document) : String :=
  String.ofList (value.laidOut 0)

end Document

end ImageStages
