import ImageStages.Document.Access

namespace ImageStages

/-- A package repository, as resolved from its metadata. -/
structure Repository where
  name : Document
  baseurl : Document
  gpgkey : Document
  checkGpg : Bool

namespace Repository

def ofDocument (data : Document) : Except Mishap Repository := do
  let name ← data.index "name"
  let baseurl ← data.lookupOr "baseurl" (.text "")
  let gpgkey ← data.lookupOr "gpgkey" (.text "")
  let checkGpg ← data.lookupOr "check_gpg" (.bool true)
  return { name, baseurl, gpgkey, checkGpg := checkGpg.given }

def toDocument (repository : Repository) : Document :=
  .record [
    ("name", repository.name),
    ("baseurl", repository.baseurl),
    ("gpgkey", repository.gpgkey),
    ("check_gpg", .bool repository.checkGpg)]

end Repository

end ImageStages
