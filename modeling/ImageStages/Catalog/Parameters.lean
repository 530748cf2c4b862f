import ImageStages.Blueprint.Customizations
import ImageStages.Blueprint.Repository
import ImageStages.Catalog.StageType
import ImageStages.Failure
import ImageStages.Layout.Table
import ImageStages.Settings

namespace ImageStages

/-! Parameters of stage requests.

A parameter that a stage reads has the kind that the stage asks for, or the request
is refused.  Null counts as absent where a parameter is optional. -/

/-- What the stages of one image have in common. -/
structure Context where
  arch : Document
  table : Option PartitionTable
  customizations : Customizations
  repositories : List Repository

/-- What rendering depends on beside the request: the settings, the salt of password
hashes, and the token that tells this run from others in the journal. -/
structure Surroundings where
  settings : Settings
  salt : String
  token : String

structure Parameters where
  stage : StageType
  fields : Fields

namespace Parameters

def find? (parameters : Parameters) (key : String) : Option Document :=
  Fields.find? parameters.fields (.text key)

def wrongKind (parameters : Parameters) (key : String) (expected : Kind)
    (value : Document) : Failure :=
  Failure.badRequest
    s!"{parameters.stage.name} parameter '{key}' must be {expected.name}, got {value.kind.name}"
    (some key)

def absent (parameters : Parameters) (key : String) : Failure :=
  Failure.badRequest s!"{parameters.stage.name} stage requires parameter '{key}'" (some key)

def asText (parameters : Parameters) (key : String) (value : Document) :
    Except Failure Text :=
  match value.text? with
  | some s => .ok s
  | none => .error (parameters.wrongKind key .text value)

def asFlag (parameters : Parameters) (key : String) (value : Document) :
    Except Failure Bool :=
  match value.bool? with
  | some flag => .ok flag
  | none => .error (parameters.wrongKind key .bool value)

def asRecord (parameters : Parameters) (key : String) (value : Document) :
    Except Failure Fields :=
  match value.fields? with
  | some fields => .ok fields
  | none => .error (parameters.wrongKind key .object value)

/-- A text that the stage cannot do without. -/
def text (parameters : Parameters) (key : String) : Except Failure Text :=
  match parameters.find? key with
  | none => .error (parameters.absent key)
  | some value => parameters.asText key value

def given? (parameters : Parameters) (key : String) : Option Document :=
  (parameters.find? key).filter (!·.isNull)

def optional (read : Document → Except Failure α) (value : Option Document) :
    Except Failure (Option α) :=
  match value with
  | none => .ok none
  | some value => (read value).map some

def text? (parameters : Parameters) (key : String) : Except Failure (Option Text) :=
  optional (parameters.asText key) (parameters.given? key)

def textOr (parameters : Parameters) (key default : String) : Except Failure Text :=
  (parameters.text? key).map (·.getD default)

def flagOr (parameters : Parameters) (key : String) (default : Bool) :
    Except Failure Bool :=
  (optional (parameters.asFlag key) (parameters.given? key)).map (·.getD default)

def record? (parameters : Parameters) (key : String) : Except Failure (Option Fields) :=
  optional (parameters.asRecord key) (parameters.given? key)

def notTexts (parameters : Parameters) (key : String) : Failure :=
  Failure.badRequest s!"{parameters.stage.name} parameter '{key}' must be a list of strings"
    (some key)

/-- A list of texts; values that do not count as given stand for the empty list. -/
def texts (parameters : Parameters) (key : String) : Except Failure (List Text) :=
  match parameters.find? key with
  | none => .ok []
  | some value =>
      if value.given then
        match value with
        | .list items =>
            if items.all (·.text?.isSome) then .ok (items.filterMap Document.text?)
            else .error (parameters.notTexts key)
        | _ => .error (parameters.notTexts key)
      else .ok []

end Parameters

end ImageStages
