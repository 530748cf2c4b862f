import ImageStages.Digest.Crypt
import ImageStages.Failure

namespace ImageStages.Account

/-- How hashes of the accepted kinds begin. -/
def acceptedMarks : List String := ["$y$", "$6$", "$5$", "$2b$"]

/-- A hash of an accepted kind is taken as it is; anything else is a plain password, which
never reaches a record. -/
def isHash (password : Text) : Bool :=
  acceptedMarks.any fun mark => (Text.ofString mark).isPrefixOf password

def isHashOf (password : Document) : Except Mishap Bool :=
  match password with
  | .scalar (.text s) => .ok (isHash s)
  | other => .error (.noMember other.kind "startswith")

def passwordLimit : Nat := 4096

/-- Why a text cannot be encoded: its first surrogates in a row. -/
def encodingRefusal (s : Text) : String :=
  let start := (s.takeWhile (!·.isSurrogate)).length
  let row := (s.drop start).takeWhile (·.isSurrogate)
  let place :=
    match row with
    | [c] => s!"character '{String.ofList (Text.codePointEscape c)}' in position {decimal start}"
    | _ => s!"characters in position {decimal start}-{decimal (start + row.length - 1)}"
  s!"'utf-8' codec can't encode {place}: surrogates not allowed"

/-- Why a plain password cannot be hashed. -/
def refusal? (password : Text) : Option Text :=
  if passwordLimit < password.length then some "password exceeds maximum allowed size"
  else if !password.isEncodable then some (encodingRefusal password)
  else if password.contains (.char '\x00') then
    some "sha512_crypt does not allow NULL bytes in password"
  else none

def hash (salt : String) (user password : Document) : Except Failure String :=
  match password with
  | .scalar (.text s) =>
      match refusal? s with
      | some reason => .error (.invalid (.password user (.text reason)))
      | none => .ok (Digest.crypt salt (String.ofList s.chars))
  | other => .error (.mishap (.notSecret other.kind))

end ImageStages.Account
