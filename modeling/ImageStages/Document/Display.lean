import ImageStages.Document.Basic
import ImageStages.Numeral.Literal
import ImageStages.Numeral.Shortest
import ImageStages.Text.Quoted

namespace ImageStages

/-- Numbers without a decimal form, as messages spell them. -/
def displayNames : Binary64.SpecialNames := ⟨"inf", "nan"⟩

/-- Quoting leaves either all printable characters as they are, or only those of ASCII. -/
inductive Charset where
  | unicode
  | ascii

namespace Charset

def shows : Charset → CodePoint → Bool
  | .unicode => Text.isPrintable
  | .ascii => Text.isPrintableAscii

end Charset

def Scalar.display (charset : Charset) : Scalar → Text
  | .null => "None"
  | .bool value => if value then "True" else "False"
  | .int value => decimal value
  | .real value => value.shown displayNames
  | .text value => Text.quotedChars charset.shows value

namespace Document

mutual

def display (charset : Charset) : Document → Text
  | .scalar value => value.display charset
  | .list items => .char '[' :: displayItems charset items ++ [.char ']']
  | .object fields => .char '\x7b' :: displayFields charset fields ++ [.char '\x7d']

def displayItems (charset : Charset) : List Document → Text
  | [] => []
  | [item] => display charset item
  | item :: rest => display charset item ++ .char ',' :: .char ' ' :: displayItems charset rest

def displayFields (charset : Charset) : List (Scalar × Document) → Text
  | [] => []
  | [(key, value)] => key.display charset ++ .char ':' :: .char ' ' :: display charset value
  | (key, value) :: rest =>
      key.display charset ++ .char ':' :: .char ' ' :: display charset value ++
        .char ',' :: .char ' ' :: displayFields charset rest

end

def quoted (value : Document) : Text :=
  value.display .unicode

/-- A value in running text: a text stands as it is. -/
def inText : Document → Text
  | .scalar (.text value) => value
  | value => value.quoted

def quotedGroup : List Document → Text
  | [] => "()"
  | [value] => "(" ++ value.quoted ++ ",)"
  | values => .char '(' :: displayItems .unicode values ++ [.char ')']

end Document

def Scalar.quoted (value : Scalar) : Text :=
  (Document.scalar value).quoted

end ImageStages
