import ImageStages.Numeral.Binary64
import ImageStages.Text.CodePoint

namespace ImageStages

/-! Documents: the values of request files, settings files and rendered stages.

The fields of an object keep their order and no two of them have the same key.
Keys are scalars because a rendered record may be keyed by whatever a request
gave as a name. -/

inductive Scalar where
  | null
  | bool (value : Bool)
  | int (value : Int)
  | real (value : Binary64)
  | text (value : Text)
deriving DecidableEq

inductive Document where
  | scalar (value : Scalar)
  | list (items : List Document)
  | object (fields : List (Scalar × Document))

abbrev Fields := List (Scalar × Document)

/-- The kinds of values that messages tell apart. -/
inductive Kind where
  | null | bool | int | real | text | list | object
deriving DecidableEq

namespace Kind

def name : Kind → String
  | .null => "NoneType"
  | .bool => "bool"
  | .int => "int"
  | .real => "float"
  | .text => "str"
  | .list => "list"
  | .object => "dict"

end Kind

namespace Scalar

def kind : Scalar → Kind
  | .null => .null
  | .bool _ => .bool
  | .int _ => .int
  | .real _ => .real
  | .text _ => .text

def int? : Scalar → Option Int
  | .bool value => some (if value then 1 else 0)
  | .int value => some value
  | _ => none

/-- Equality of keys.  Numbers are compared by value, and truth values count as
the numbers 0 and 1. -/
def same : Scalar → Scalar → Bool
  | .null, .null => true
  | .text left, .text right => left == right
  | .real left, .real right => left.same right
  | .real left, right => right.int?.any left.sameInt
  | left, .real right => left.int?.any right.sameInt
  | left, right =>
      match left.int?, right.int? with
      | some left, some right => left == right
      | _, _ => false

@[simp] theorem text_same_text (left right : Text) :
    (text left).same (text right) = (left == right) := rfl

/-- Whether a value counts as given: null, false, zero and the empty text do not. -/
def given : Scalar → Bool
  | .null => false
  | .bool value => value
  | .int value => value != 0
  | .real value => !value.isZero
  | .text value => value != []

end Scalar

namespace Fields

def find? (fields : Fields) (key : Scalar) : Option Document :=
  match fields with
  | [] => none
  | (other, value) :: rest => if other.same key then some value else find? rest key

/-- Stores a value.  A key that is present keeps its place and its spelling. -/
def put (fields : Fields) (key : Scalar) (value : Document) : Fields :=
  match fields with
  | [] => [(key, value)]
  | (other, old) :: rest =>
      if other.same key then (other, value) :: rest else (other, old) :: put rest key value

def putAll (fields added : Fields) : Fields :=
  added.foldl (fun fields field => fields.put field.1 field.2) fields

def ofPairs (pairs : List (Scalar × Document)) : Fields :=
  putAll [] pairs

def keys (fields : Fields) : List Scalar :=
  fields.map (·.1)

end Fields

namespace Document

@[match_pattern] abbrev null : Document := .scalar .null

@[match_pattern] abbrev bool (value : Bool) : Document := .scalar (.bool value)

@[match_pattern] abbrev int (value : Int) : Document := .scalar (.int value)

@[match_pattern] abbrev real (value : Binary64) : Document := .scalar (.real value)

@[match_pattern] abbrev text (value : Text) : Document := .scalar (.text value)

def record (fields : List (Text × Document)) : Document :=
  .object (fields.map fun field => (.text field.1, field.2))

def texts (values : List Text) : Document :=
  .list (values.map .text)

def kind : Document → Kind
  | .scalar value => value.kind
  | .list _ => .list
  | .object _ => .object

/-- Whether a value counts as given: empty lists and objects do not, nor do the
scalars that do not. -/
def given : Document → Bool
  | .scalar value => value.given
  | .list items => !items.isEmpty
  | .object fields => !fields.isEmpty

def orElse (value fallback : Document) : Document :=
  if value.given then value else fallback

def isNull : Document → Bool
  | .scalar .null => true
  | _ => false

def text? : Document → Option Text
  | .scalar (.text value) => some value
  | _ => none

def bool? : Document → Option Bool
  | .scalar (.bool value) => some value
  | _ => none

def fields? : Document → Option Fields
  | .object fields => some fields
  | _ => none

mutual

/-- Equality of values.  Lists agree item by item, objects whatever the order of
their fields. -/
def same : Document → Document → Bool
  | .scalar left, .scalar right => left.same right
  | .list left, .list right => sameItems left right
  | .object left, .object right => left.length == right.length && sameFields left right
  | _, _ => false

def sameItems : List Document → List Document → Bool
  | [], [] => true
  | left :: lefts, right :: rights => same left right && sameItems lefts rights
  | _, _ => false

def sameFields : List (Scalar × Document) → List (Scalar × Document) → Bool
  | [], _ => true
  | (key, left) :: lefts, rights =>
      (match Fields.find? rights key with
        | some right => same left right
        | none => false) && sameFields lefts rights

end

/-- Drops the fields that were never set: those that are null, an empty list or
an empty object.  False, zero and the empty text are values of their own. -/
def isUnset : Document → Bool
  | .scalar .null => true
  | .list [] => true
  | .object [] => true
  | _ => false

end Document

def Fields.setFields (fields : Fields) : Fields :=
  fields.filter fun field => !field.2.isUnset

end ImageStages
