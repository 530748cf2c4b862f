import ImageStages.Document.Access
import ImageStages.Document.Writer
import ImageStages.Journal.Note

namespace ImageStages

/-- A note with all values that apply to it. -/
structure Record where
  level : Level
  message : Text
  extra : Extra

inductive Verbosity where
  | normal | detailed | traced
deriving DecidableEq

namespace Verbosity

/-- Tracing includes the details. -/
def ofFlags (debug trace : Bool) : Verbosity :=
  if trace then .traced else if debug then .detailed else .normal

def threshold : Verbosity → Level
  | .normal => .info
  | .detailed => .debug
  | .traced => .trace

end Verbosity

/-- The tag of records that write out whole options. -/
def dumpTag : String := "dump"

/-- Whether the tags of a record let it be shown. -/
def tagsAllow (tags : Option Document) (level : Level) : Except Mishap Bool := do
  let isDump ← (tags.getD (.list [])).holdsWord dumpTag
  return !isDump || level.rank ≤ Level.trace.rank

def padded (width : Nat) (s : Text) : Text :=
  s ++ List.replicate (width - s.length) (.char ' ')

namespace Record

def value (record : Record) (name : Text) : Text :=
  ((record.extra.find? name).getD .null).inText

/-- The line of a record from its level on, without the time in front. -/
def line (record : Record) : Text :=
  padded 8 record.level.name ++ " | " ++ padded 12 (record.value "source") ++ " | " ++
    padded 15 (record.value "job_id") ++ " | " ++ record.message ++ "\n"

def isAllowed (record : Record) : Bool :=
  match tagsAllow (record.extra.find? "tags") record.level with
  | .ok allowed => allowed
  | .error _ => false

def isShown (record : Record) (verbosity : Verbosity) : Bool :=
  verbosity.threshold.rank ≤ record.level.rank && record.isAllowed

/-- Whether a record is kept in the files of the journal. -/
def isKept (record : Record) : Bool :=
  Level.info.rank ≤ record.level.rank

/-- What a record tells.  When and where it was written is left out. -/
def toDocument (record : Record) : Document :=
  .record [
    ("level", .text record.level.name),
    ("message", .text record.message),
    ("extra", .record record.extra)]

def documentLine (record : Record) : Text :=
  record.toDocument.inLine ++ "\n"

end Record

end ImageStages
