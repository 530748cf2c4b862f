import ImageStages.Failure
import ImageStages.Numeral.Literal

namespace ImageStages

namespace Document

/-- The fields of an object that is asked for its member `get`. -/
def members (value : Document) : Except Mishap Fields :=
  match value with
  | .object fields => .ok fields
  | other => .error (.noMember other.kind "get")

def lookup (value : Document) (name : String) : Except Mishap (Option Document) :=
  value.members.map fun fields => Fields.find? fields (.text name)

def lookupOr (value : Document) (name : String) (default : Document) :
    Except Mishap Document :=
  (value.lookup name).map (·.getD default)

def index (value : Document) (name : String) : Except Mishap Document :=
  match value with
  | .object fields =>
      match Fields.find? fields (.text name) with
      | some field => .ok field
      | none => .error (.missingKey (.text name))
  | .list _ => .error .listIndexedByName
  | .scalar (.text _) => .error .textIndexedByName
  | .scalar other => .error (.notSubscriptable other.kind)

/-- What a value yields item by item: a list its items, a text its characters, an
object its keys. -/
def items (value : Document) : Except Mishap (List Document) :=
  match value with
  | .list items => .ok items
  | .object fields => .ok (fields.map fun field => .scalar field.1)
  | .scalar (.text s) => .ok (s.map fun c => .text [c])
  | .scalar other => .error (.notIterable other.kind)

def asKey (value : Document) : Except Mishap Scalar :=
  match value with
  | .scalar other => .ok other
  | other => .error (.unhashable other.kind)

/-- Whether a word occurs in a value: among the items of a list, the keys of an
object, or the characters of a text. -/
def holdsWord (value : Document) (word : Text) : Except Mishap Bool :=
  match value with
  | .list items => .ok (items.any (same (.text word)))
  | .object fields => .ok (Fields.find? fields (.text word)).isSome
  | .scalar (.text s) => .ok (Text.occursIn word s)
  | .scalar other => .error (.notContainer other.kind)

/-- The integer that a value stands for: a number toward zero, a truth value as
zero or one, and a text as a literal. -/
def toInteger (value : Document) : Except Mishap Int :=
  match value with
  | .scalar (.int value) => .ok value
  | .scalar (.bool value) => .ok (if value then 1 else 0)
  | .scalar (.real .notANumber) => .error .notANumber
  | .scalar (.real (.infinite _)) => .error .infinite
  | .scalar (.real (.finite negative significand exponent)) =>
      .ok (Binary64.truncate negative significand exponent)
  | .scalar (.text s) =>
      match Literal.read .decimal s with
      | .ok value => .ok value
      | .error .malformed => .error (.badLiteral 10 s)
      | .error (.tooManyDigits count) => .error (.tooManyDigits count)
  | other => .error (.notNumeric other.kind)

end Document

end ImageStages
