import ImageStages.Failure
import ImageStages.Numeral.Literal

namespace ImageStages.Identifier

/-! Identifiers of 128 bits.

A spelling may carry the marks `urn:` and `uuid:` anywhere, braces around it and
hyphens within.  What remains has 32 characters and is read as a hexadecimal
literal.  The canonical form has lower case digits, grouped by hyphens. -/

def isBrace (c : CodePoint) : Bool :=
  c == '\x7b' || c == '\x7d'

def stripBraces (s : Text) : Text :=
  ((s.dropWhile isBrace).reverse.dropWhile isBrace).reverse

def unmarked (s : Text) : Text :=
  let plain := Text.removeWord "uuid:" 0 (Text.removeWord "urn:" 0 s)
  (stripBraces plain).filter (· != '-')

def digitCount : Nat := 32

def valueOf (s : Text) : Except Text Nat :=
  let digits := unmarked s
  if digits.length = digitCount then
    match Literal.read .hexadecimal digits with
    | .ok value => .ok value.toNat
    | .error _ => .error (Mishap.badLiteral 16 digits).message
  else .error "badly formed hexadecimal UUID string"

def groupSizes : List Nat := [8, 4, 4, 4, 12]

def groups : List Nat → List Char → List (List Char)
  | [], _ => []
  | size :: sizes, digits => digits.take size :: groups sizes (digits.drop size)

def canonical (value : Nat) : Text :=
  Text.ofChars (['-'].intercalate (groups groupSizes (Text.hexDigits digitCount value)))

/-- The canonical form of an identifier, or why there is none. -/
def parse (value : Document) : Except Failure Text :=
  let refused (reason : Text) : Except Failure Text :=
    .error (.invalid (.identifier value (.text reason)))
  match value with
  | .scalar (.text s) =>
      match valueOf s with
      | .ok number => .ok (canonical number)
      | .error reason => refused reason
  | .scalar .null =>
      refused "one of the hex, bytes, bytes_le, fields, or int arguments must be given"
  | other => refused (Mishap.noMember other.kind "replace").message

end ImageStages.Identifier
