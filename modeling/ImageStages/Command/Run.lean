import ImageStages.Build.Request
import ImageStages.Catalog.Batch
import ImageStages.Command.Invocation
import ImageStages.Document.Writer
import ImageStages.Journal.Session

namespace ImageStages.Command

/-! Runs of the command: from a command line and the files that are there to what is
printed, what is written, and the exit code.

A rejected request ends a run with code 2 and an inconsistent one with code 70; in
both cases nothing is printed and no result is written. -/

open Text (Location)

structure Environment where
  settingsPath : String
  logDirectory : Option String
  salt : String
  /-- Tells this run of the operation from others. -/
  operation : Occurrence
  /-- Tells this run over the stage requests from others. -/
  batchToken : String

/-- What a run leaves: what it printed, the usage text in case of misuse, the entries
of the journal, the files, and the exit code unless a mishap ended it. -/
structure Report where
  printed : String
  usage : Text
  entries : List Entry
  files : Files
  result : Except Failure Nat

def Report.errorText (report : Report) : String :=
  String.ofList (Text.shownChars (report.usage ++ consoleText report.entries))

def misuseCode : Nat := 2

def rejectedCode : Nat := 2

def abortedCode : Nat := 70

def operationsFile : String := "operations.log"

def recordsFile : String := "structured.jsonl"

/-- The directory of the journal's files, if there is one: as asked for, else that of
the environment. -/
def journalDirectory (environment : Environment) (invocation : Invocation) :
    Option Location :=
  match invocation.logDirectory with
  | some path => some (Location.ofText path)
  | none => (environment.logDirectory.filter (· != "")).map Location.ofText

/-- What lines come to in a file.  A line without a form in UTF-8 is left out. -/
def encodeLines (lines : List Text) : List UInt8 :=
  (lines.filter (·.isEncodable)).flatMap fun line => Text.encodeUtf8 line.chars

def appendAt (files : Files) (location : Location) (octets : List UInt8) :
    Except Mishap Files :=
  match files.resolve location with
  | .error trouble => .error (Files.refusal location trouble)
  | .ok path =>
      match files.node? path with
      | some .directory => .error (Files.refusal location .isDirectory)
      | _ => .ok (files.append path octets)

/-- Adds entries to the journal's files, those from the level of information on.  What becomes
of a file that grows too large or too old, which is set aside, compressed and dropped, is left
out. -/
def keep (directory : Option Location) (files : Files) (entries : List Entry) :
    Except Mishap Files :=
  match directory with
  | none => .ok files
  | some directory => do
      let kept := (entries.map (·.record)).filter (·.isKept)
      let files ← appendAt files (directory.child operationsFile)
        (encodeLines (kept.map Record.line))
      appendAt files (directory.child recordsFile) (encodeLines (kept.map Record.documentLine))

def openJournal (directory : Option Location) (files : Files) : Except Mishap Files :=
  match directory with
  | none => .ok files
  | some location => do
      let files ← files.makeDirectory location
      keep directory files []

def systemNote (level : Level) (message : Text) : Note :=
  Logger.system.note level message

/-- The request in a file.  A file that cannot be read is a bad request, unless its
octets are no text or hold a number without end. -/
def readRequest (files : Files) (location : Location) : Except Failure Document :=
  let unreadable (reason : Text) : Failure :=
    .badRequest ("Cannot read " ++ location.text ++ ": " ++ reason) none
  match files.readText location with
  | .error (.file error) => .error (unreadable error.message)
  | .error mishap => .error (.mishap mishap)
  | .ok s =>
      match Json.read s with
      | .ok document => .ok document
      | .error (.syntaxFault fault) => .error (unreadable (fault.message s))
      | .error (.tooManyDigits count) => .error (.mishap (.tooManyDigits count))

/-- The stages of the request in a file; with types, those of these types only. -/
def renderFile (surroundings : Surroundings) (files : Files) (location : Location)
    (types : List Text) : Outcome (List Stage) := do
  let document ← readRequest files location
  let request ← BuildRequest.ofDocument document
  let request := if types.isEmpty then request else request.only types
  Catalog.renderBatch surroundings request.context request.stages

def resultText (stages : List Stage) : String :=
  (Document.list (stages.map Stage.toDocument)).toLaidOut ++ "\n"

/-- The exit code of a failure, and the note that tells why; a mishap has neither. -/
def rejection? (failure : Failure) : Option (Nat × Note) :=
  match failure with
  | .invalid cause =>
      some (rejectedCode, systemNote .error ("Build request rejected: " ++ cause.message))
  | .invariant cause =>
      some (abortedCode, systemNote .critical ("Generation aborted: " ++ cause.message))
  | .general _ | .mishap _ => none

def renderDetails (location : Location) : Extra :=
  [("request", .text location.text)]

def renderStep (environment : Environment) (location : Location)
    (outcome : Outcome (List Stage)) : Step :=
  .operation "render" environment.operation (renderDetails location) (Step.ofOutcome outcome)

/-- The entry at the start of a rendering. -/
def renderOpening (environment : Environment) (session : Session) (location : Location) :
    Entry :=
  session.opening "render" environment.operation.token (renderDetails location)

def writtenNote (count : Nat) (location : Location) : Note :=
  systemNote .info (s!"Wrote {decimal count} stages to " ++ location.text)

def deliver (session : Session) (files : Files) (directory output : Option Location)
    (stages : List Stage) : Report :=
  match output with
  | none => ⟨resultText stages, [], [], files, .ok 0⟩
  | some location =>
      match files.write location (Text.encodeUtf8 (resultText stages).toList) with
      | .error mishap => ⟨"", [], [], files, .error (.mishap mishap)⟩
      | .ok files =>
          let entries := [session.write (writtenNote stages.length location)]
          match keep directory files entries with
          | .error mishap => ⟨"", [], entries, files, .error (.mishap mishap)⟩
          | .ok files => ⟨"", [], entries, files, .ok 0⟩

def reject (session : Session) (files : Files) (directory : Option Location)
    (failure : Failure) : Report :=
  match rejection? failure with
  | none => ⟨"", [], [], files, .error failure⟩
  | some (code, note) =>
      let entries := [session.write note]
      match keep directory files entries with
      | .error mishap => ⟨"", [], entries, files, .error (.mishap mishap)⟩
      | .ok files => ⟨"", [], entries, files, .ok code⟩

def Report.after (report : Report) (entries : List Entry) : Report :=
  { report with entries := entries ++ report.entries }

/-- Renders the stages of a request.  The start is kept before the request is read, which
makes a difference if the request is a file of the journal. -/
def performRender (environment : Environment) (settings : Settings) (session : Session)
    (files : Files) (directory : Option Location) (request : String) (types : List String)
    (output : Option String) : Report :=
  let location := Location.ofText request
  let surroundings : Surroundings := ⟨settings, environment.salt, environment.batchToken⟩
  let started := renderOpening environment session location
  match keep directory files [started] with
  | .error mishap => ⟨"", [], [started], files, .error (.mishap mishap)⟩
  | .ok files =>
      let outcome := renderFile surroundings files location (types.map Text.ofString)
      let course := session.run Logger.unbound (renderStep environment location outcome)
      match keep directory files course.entries.tail with
      | .error mishap => ⟨"", [], course.entries, files, .error (.mishap mishap)⟩
      | .ok files =>
          let report :=
            match outcome.result with
            | .ok stages =>
                deliver course.session files directory (output.map Location.ofText) stages
            | .error failure => reject course.session files directory failure
          report.after course.entries

def performTask (environment : Environment) (settings : Settings) (session : Session)
    (files : Files) (directory : Option Location) (task : Task) : Report :=
  match task with
  | .list =>
      ⟨String.join (Catalog.typeNames.map (· ++ "\n")), [], [], files, .ok 0⟩
  | .render request types output =>
      performRender environment settings session files directory request types output

def loadedNote (location : Location) : Note :=
  systemNote .debug ("Loaded settings from " ++ location.text)

def perform (environment : Environment) (files : Files) (invocation : Invocation) : Report :=
  let session := Session.initial.setUp (Verbosity.ofFlags invocation.debug invocation.trace)
  let directory := journalDirectory environment invocation
  match openJournal directory files with
  | .error mishap => ⟨"", [], [], files, .error (.mishap mishap)⟩
  | .ok files =>
      let location := Location.ofText (invocation.settings.getD environment.settingsPath)
      match Settings.load? files location with
      | .error mishap => ⟨"", [], [], files, .error (.mishap mishap)⟩
      | .ok none =>
          performTask environment .builtin session files directory invocation.task
      | .ok (some settings) =>
          (performTask environment settings session files directory invocation.task).after
            [session.write (loadedNote location)]

def run (environment : Environment) (files : Files) (words : List String) : Report :=
  match Invocation.ofWords words with
  | .ok invocation => perform environment files invocation
  | .error (.help page) => ⟨page.help environment.settingsPath, [], [], files, .ok 0⟩
  | .error (.misuse page fault) => ⟨"", page.misuse fault, [], files, .ok misuseCode⟩

end ImageStages.Command
