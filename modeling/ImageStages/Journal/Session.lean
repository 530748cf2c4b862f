import ImageStages.Journal.Record
import ImageStages.Outcome
import ImageStages.Text.Case

namespace ImageStages

/-! A session of the journal.

A session has configured values and values of the operations that surround what is
done.  Of several values with one name, those of the note itself win over those its
logger is bound to, these over surrounding ones, and these over configured ones.
An operation writes a record when it starts and another when it ends, and leaves the
surrounding values as they were. -/

structure Session where
  console : Option Verbosity
  configured : Extra
  ambient : Extra

/-- A record as it was written: on the console or not. -/
structure Entry where
  record : Record
  onConsole : Bool

namespace Session

/-- The session before the journal is set up, when nothing is shown. -/
def initial : Session := ⟨none, [], []⟩

def configuredValues : Extra :=
  [("job_id", .text "-"), ("tags", .list []), ("source", .text "APP")]

def setUp (session : Session) (verbosity : Verbosity) : Session :=
  { session with console := some verbosity, configured := configuredValues }

def extraOf (session : Session) (note : Note) : Extra :=
  ((session.configured.overlay session.ambient).overlay note.bound).overlay note.own

def record (session : Session) (note : Note) : Record :=
  ⟨note.level, note.message, session.extraOf note⟩

def write (session : Session) (note : Note) : Entry :=
  let record := session.record note
  ⟨record, session.console.any record.isShown⟩

end Session

/-- What ends steps early: a failure of the program, an exception of some other class, or
an interruption, which is no exception to those that wait for one. -/
inductive Raised where
  | failure (cause : Failure)
  | exception (label : String) (message : Text)
  | interruption (label : String) (message : Text)

namespace Raised

def label : Raised → String
  | .failure cause => cause.label
  | .exception label _ => label
  | .interruption label _ => label

def message : Raised → Text
  | .failure cause => cause.message
  | .exception _ message => message
  | .interruption _ message => message

def isException : Raised → Bool
  | .interruption _ _ => false
  | _ => true

end Raised

/-- What tells one run of an operation from others: a token, and how long it took in
seconds. -/
structure Occurrence where
  token : String
  seconds : Binary64

inductive Step where
  | setUp (verbosity : Verbosity)
  | write (note : Note)
  /-- A note by the logger of the innermost operation. -/
  | report (level : Level) (message : Text)
  | raise (raised : Raised)
  | operation (name : Text) (occurrence : Occurrence) (details : Extra) (steps : List Step)

/-- The entries that steps wrote, the session after them, and how they ended. -/
structure Course where
  entries : List Entry
  session : Session
  result : Except Raised Unit

namespace Logger

def unbound : Logger := ⟨[]⟩

def operation (name job : Text) : Logger :=
  ⟨[("source", .text name), ("job_id", .text job), ("tags", .texts [name])]⟩

/-- A logger bound to those values that are given.  Tags are taken one by one. -/
def bind (job tags source : Option Document) : Except Mishap Logger := do
  let tags ← tags.mapM Document.items
  let optional (name : Text) (value : Option Document) : Extra :=
    value.toList.map fun value => (name, value)
  return ⟨optional "job_id" job ++ optional "tags" (tags.map .list) ++
    optional "source" source⟩

end Logger

namespace Operation

def title (name : Text) : Text :=
  Text.capitalize name

def job (name : Text) (token : String) : Text :=
  name ++ "-" ++ token

def startNote (name job : Text) (details : Extra) : Note :=
  ((Logger.operation name job).note .info (title name ++ " started")).withOwn details

/-- The note at the end of an operation: of success, or of the exception that it ends in. -/
def endNote? (name job : Text) (seconds : Binary64) (result : Except Raised Unit) :
    Option Note :=
  let logger := Logger.operation name job
  let duration : Text × Document := ("duration_seconds", .real seconds)
  match result with
  | .ok _ => some ((logger.note .success (title name ++ " completed")).withOwn [duration])
  | .error raised =>
      if raised.isException then
        some ((logger.note .error (title name ++ " failed")).withOwn
          [("error", .text raised.message), ("error_type", .text raised.label), duration])
      else none

/-- Names that no detail can have, since an operation or the loggers have parameters of
these names, with what is raised for them.  They are tried in this order. -/
def takenNames : List (String × String) := [
  ("operation", "operation_context() got multiple values for argument 'operation'"),
  ("job_id", "loguru._logger.Logger.contextualize() got multiple values for keyword argument " ++
    "'job_id'"),
  ("_Logger__self", "Logger.contextualize() got multiple values for argument '_Logger__self'"),
  ("_Logger__message", "Logger.info() got multiple values for argument '_Logger__message'")]

/-- What is raised instead of an operation with a detail of a name that is taken. -/
def refusal? (details : Extra) : Option Raised :=
  (takenNames.find? fun taken => (details.find? taken.1).isSome).map fun taken =>
    .exception "TypeError" taken.2

end Operation

namespace Session

def enter (session : Session) (name job : Text) (details : Extra) : Session :=
  let values : Extra := ("job_id", .text job) :: ("operation", .text name) :: details
  { session with ambient := session.ambient.overlay values }

/-- The session after an operation has the surrounding values from before it. -/
def leave (session before : Session) : Session :=
  { session with ambient := before.ambient }

/-- The entry at the start of an operation. -/
def opening (session : Session) (name : Text) (token : String) (details : Extra) : Entry :=
  let job := Operation.job name token
  (session.enter name job details).write (Operation.startNote name job details)

mutual

/-- Takes one step; `logger` is that of the innermost operation. -/
def run (session : Session) (logger : Logger) : Step → Course
  | .setUp verbosity => ⟨[], session.setUp verbosity, .ok ()⟩
  | .write note => ⟨[session.write note], session, .ok ()⟩
  | .report level message => ⟨[session.write (logger.note level message)], session, .ok ()⟩
  | .raise raised => ⟨[], session, .error raised⟩
  | .operation name occurrence details steps =>
      match Operation.refusal? details with
      | some raised => ⟨[], session, .error raised⟩
      | none =>
          let job := Operation.job name occurrence.token
          let body := runAll (session.enter name job details) (Logger.operation name job) steps
          let ending := Operation.endNote? name job occurrence.seconds body.result
          ⟨session.opening name occurrence.token details ::
              (body.entries ++ ending.toList.map body.session.write),
            body.session.leave session, body.result⟩

def runAll (session : Session) (logger : Logger) : List Step → Course
  | [] => ⟨[], session, .ok ()⟩
  | step :: rest =>
      let first := run session logger step
      match first.result with
      | .error raised => ⟨first.entries, first.session, .error raised⟩
      | .ok _ =>
          let others := runAll first.session logger rest
          ⟨first.entries ++ others.entries, others.session, others.result⟩

end

end Session

def consoleText (entries : List Entry) : Text :=
  ((entries.filter (·.onConsole)).map (·.record.line)).flatten

namespace Step

/-- The notes of an outcome and its failure, as steps. -/
def ofOutcome (outcome : Outcome α) : List Step :=
  outcome.notes.map .write ++
    (match outcome.result with
      | .ok _ => []
      | .error failure => [.raise (.failure failure)])

end Step

end ImageStages
