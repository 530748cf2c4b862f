import ImageStages.Document.Basic

namespace ImageStages

/-- A rendered stage, as the assembler of the pipeline takes it, is tagged by its type and
carries flat options.  Inputs, devices and mounts are there only for stages that need them. -/
structure Stage where
  type : String
  options : Fields
  inputs : Option Fields := none
  devices : Option Fields := none
  mounts : Option (List Document) := none

namespace Stage

def toDocument (stage : Stage) : Document :=
  let field (name : Text) (value : Option Document) : List (Text × Document) :=
    value.toList.map fun value => (name, value)
  .record (field "type" (some (.text stage.type)) ++
    field "inputs" (stage.inputs.map .object) ++
    field "devices" (stage.devices.map .object) ++
    field "mounts" (stage.mounts.map .list) ++
    field "options" (some (.object stage.options)))

end Stage

def options (fields : List (Text × Document)) : Fields :=
  fields.map fun field => (.text field.1, field.2)

end ImageStages
