import ImageStages.Catalog.Render

namespace ImageStages.Catalog

def typeName (request : Fields) : Except Failure Text :=
  match Fields.find? request (.text "type") with
  | some (.scalar (.text name)) =>
      if name = [] then .error (.badRequest "Stage request without a type" (some "type"))
      else .ok name
  | _ => .error (.badRequest "Stage request without a type" (some "type"))

/-- The parameters of a request; null counts as none. -/
def parametersOf (name : Text) (request : Fields) : Except Failure Fields :=
  match Fields.find? request (.text "params") with
  | none | some (.scalar .null) => .ok []
  | some (.object fields) => .ok fields
  | some _ => .error (.badRequest (name ++ " params must be an object") (some "params"))

def knownType (name : Text) : Except Failure StageType :=
  match StageType.ofName? name with
  | some type => .ok type
  | none => .error (.invalid (.unknownStage (.text name)))

/-- The logger of one run over the requests of a build. -/
def batchLogger (surroundings : Surroundings) : Logger :=
  Logger.registry ("stages-" ++ surroundings.token)

def renderedNote (logger : Logger) (stage : Stage) : Note :=
  logger.note .debug ("Rendered " ++ stage.type)

def dumpNote (logger : Logger) (stage : Stage) : Note :=
  logger.dumping.note .trace (stage.type ++ ": " ++ (Document.object stage.options).quoted)

def renderStage (surroundings : Surroundings) (context : Context) (name : Text)
    (parameters : Fields) : Outcome Stage := do
  let type ← knownType name
  type.render surroundings context parameters

theorem renderStage_of_name {name : Text} {type : StageType}
    (known : StageType.ofName? name = some type) (surroundings : Surroundings) (context : Context)
    (parameters : Fields) :
    renderStage surroundings context name parameters =
      type.render surroundings context parameters := by
  rw [renderStage, knownType, known]
  rfl

def renderRequest (surroundings : Surroundings) (context : Context) (request : Fields) :
    Outcome Stage := do
  let name ← typeName request
  let parameters ← parametersOf name request
  let stage ← renderStage surroundings context name parameters
  let logger := batchLogger surroundings
  Outcome.note (renderedNote logger stage)
  Outcome.note (dumpNote logger stage)
  return stage

def renderBatch (surroundings : Surroundings) (context : Context) :
    List Fields → Outcome (List Stage)
  | [] => pure []
  | request :: rest => do
      let stage ← renderRequest surroundings context request
      let stages ← renderBatch surroundings context rest
      return stage :: stages

def typeNames : List String :=
  StageType.all.map StageType.name

end ImageStages.Catalog
