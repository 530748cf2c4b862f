import ImageStages.Catalog.Parameters

namespace ImageStages

/-- What an image is made from, and the stages to render for it. -/
structure BuildRequest where
  context : Context
  stages : List Fields

namespace BuildRequest

def malformed (mishap : Mishap) : Failure :=
  .badRequest ("Malformed build request: " ++ mishap.quoted) none

/-- A mishap while the context is read makes the request malformed.  Arithmetic is
not excused. -/
def ofMishap (mishap : Mishap) : Failure :=
  match mishap.family with
  | .member | .kind | .key | .value => malformed mishap
  | .arithmetic | .file => .mishap mishap

def field? (data : Fields) (key : String) : Option Document :=
  Fields.find? data (.text key)

def readTable (data : Fields) : Except Mishap (Option PartitionTable) :=
  let table := (field? data "partition_table").getD .null
  if table.given then (PartitionTable.ofDocument table).map some else .ok none

def readCustomizations (data : Fields) : Except Mishap Customizations :=
  Customizations.ofDocument
    (((field? data "customizations").getD .null).orElse (.object []))

def readRepositories (data : Fields) : Except Mishap (List Repository) := do
  let repositories ← ((field? data "repos").getD (.list [])).items
  repositories.mapM Repository.ofDocument

def readContext (arch : Document) (data : Fields) : Except Mishap Context := do
  let table ← readTable data
  let customizations ← readCustomizations data
  let repositories ← readRepositories data
  return { arch, table, customizations, repositories }

def readArch (data : Fields) : Except Failure Document :=
  let arch := (field? data "arch").getD .null
  if arch.given then .ok arch
  else .error (.badRequest "Build request requires 'arch'" (some "arch"))

def badStages : Failure :=
  .badRequest "'stages' must be a list of objects" (some "stages")

def readStages (data : Fields) : Except Failure (List Fields) :=
  match (field? data "stages").getD (.list []) with
  | .list items =>
      if items.all (·.fields?.isSome) then .ok (items.filterMap Document.fields?)
      else .error badStages
  | _ => .error badStages

def ofDocument (data : Document) : Except Failure BuildRequest :=
  match data with
  | .object data => do
      let arch ← readArch data
      let context ← (readContext arch data).mapError ofMishap
      let stages ← readStages data
      return { context, stages }
  | _ => .error (.badRequest "Build request must be a JSON object" none)

def only (request : BuildRequest) (types : List Text) : BuildRequest :=
  { request with stages := request.stages.filter fun stage =>
      ((field? stage "type").bind Document.text?).any types.contains }

end BuildRequest

end ImageStages
