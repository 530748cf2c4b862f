import ImageStages.Document.Display

namespace ImageStages

inductive Level where
  | trace | debug | info | success | warning | error | critical
deriving DecidableEq

namespace Level

def rank : Level → Nat
  | .trace => 5
  | .debug => 10
  | .info => 20
  | .success => 25
  | .warning => 30
  | .error => 40
  | .critical => 50

def name : Level → String
  | .trace => "TRACE"
  | .debug => "DEBUG"
  | .info => "INFO"
  | .success => "SUCCESS"
  | .warning => "WARNING"
  | .error => "ERROR"
  | .critical => "CRITICAL"

def all : List Level := [.trace, .debug, .info, .success, .warning, .error, .critical]

def ofName? (name : String) : Option Level :=
  all.find? (·.name == name)

end Level

/-- Named values; no name occurs twice. -/
abbrev Extra := List (Text × Document)

namespace Extra

def find? (extra : Extra) (name : Text) : Option Document :=
  (List.find? (·.1 == name) extra).map (·.2)

def put (extra : Extra) (name : Text) (value : Document) : Extra :=
  match extra with
  | [] => [(name, value)]
  | (other, old) :: rest =>
      if other == name then (other, value) :: rest else (other, old) :: put rest name value

/-- The values of both, those of the second where a name occurs in both. -/
def overlay (base added : Extra) : Extra :=
  added.foldl (fun extra entry => extra.put entry.1 entry.2) base

end Extra

structure Note where
  level : Level
  message : Text
  bound : Extra
  own : Extra

def Note.withOwn (note : Note) (own : Extra) : Note :=
  { note with own }

structure Logger where
  bound : Extra

namespace Logger

def note (logger : Logger) (level : Level) (message : Text) : Note :=
  ⟨level, message, logger.bound, []⟩

def ofSource (source : Text) (tags : List Text) : Logger :=
  ⟨[("tags", .texts tags), ("source", .text source)]⟩

def disk : Logger := ofSource "disk" ["disk", "mounts"]

def bootloader : Logger := ofSource "bootloader" ["bootloader"]

def installer : Logger := ofSource "installer" ["installer"]

def iso : Logger := ofSource "iso" ["iso"]

def users : Logger := ofSource "users" ["users"]

def system : Logger := ofSource "system" ["system"]

/-- The logger of a run over many stages, which is a job of its own. -/
def registry (job : Text) : Logger :=
  ⟨("job_id", .text job) :: (ofSource "registry" ["registry"]).bound⟩

def dumping (logger : Logger) : Logger :=
  ⟨logger.bound.put "tags" (.texts ["registry", "dump"])⟩

end Logger

end ImageStages
