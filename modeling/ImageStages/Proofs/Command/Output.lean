import ImageStages.Proofs.Build.Severity
import ImageStages.Proofs.Command.Journal
import ImageStages.Proofs.Command.Writable
import ImageStages.Proofs.Document.RoundTrip

namespace ImageStages.Command

/-! What a run that renders prints, and what it writes.

Once its journal is open, a run ends as its rendering ends.  Where the rendering fails,
nothing is printed, and no file but those of the journal changes.  Where it succeeds, the
text that is printed or written reads as the rendered stages. -/

open Text (Location)

variable {environment : Environment} {files opened started : Files} {words : List String}
  {invocation : Invocation} {request : String} {types : List String} {output : Option String}
  {stored : Option Settings} {stages : List Stage} {failure : Failure} {session : Session}
  {directory : Option Location} {rendered : Except Failure (List Stage)}

/-- The entry at the start of a rendering that an invocation asks for. -/
def Invocation.opening (environment : Environment) (invocation : Invocation)
    (request : String) : Entry :=
  renderOpening environment
    (Session.initial.setUp (Verbosity.ofFlags invocation.debug invocation.trace))
    (Location.ofText request)

/-- The invocation asks for the stages of a request, of some types or of all.  The journal
can be opened, which leaves the files as given, the settings can be read, and the files once
the start has been kept are given as well. -/
structure Renders (environment : Environment) (files opened started : Files)
    (invocation : Invocation) (request : String) (types : List String)
    (output : Option String) (stored : Option Settings) : Prop where
  task : invocation.task = .render request types output
  opens : openJournal (journalDirectory environment invocation) files = .ok opened
  loaded : Settings.load? opened
    (Location.ofText (invocation.settings.getD environment.settingsPath)) = .ok stored
  begins : keep (journalDirectory environment invocation) opened
    [invocation.opening environment request] = .ok started

/-- How the rendering of a request ends. -/
def rendering (environment : Environment) (files : Files) (stored : Option Settings)
    (request : String) (types : List String) : Except Failure (List Stage) :=
  (renderFile ⟨stored.getD .builtin, environment.salt, environment.batchToken⟩ files
    (Location.ofText request) (types.map Text.ofString)).result

/-- A request for one stage renders to that stage. -/
theorem rendering_singleton {environment : Environment} {files : Files} {stored : Option Settings}
    {request : String} {document : Document} {built : BuildRequest} {asked : Fields}
    {parameters : Parameters} {stage : Stage}
    (read : readRequest files (Location.ofText request) = .ok document)
    (accepted : BuildRequest.ofDocument document = .ok built) (alone : built.stages = [asked])
    (asks : Catalog.Asks asked parameters)
    (renders : (parameters.stage.render
      ⟨stored.getD .builtin, environment.salt, environment.batchToken⟩ built.context
      parameters.fields).result = .ok stage) :
    rendering environment files stored request [] = .ok [stage] := by
  refine renderFile_all_iff.mpr ⟨built, ⟨document, read, accepted⟩, ?_⟩
  rw [alone]
  exact .cons (Catalog.rendersAlone_iff.mpr (asks.result_renderRequest.trans renders)) .nil

/-- The same invocation, with its result printed. -/
def Invocation.printing (invocation : Invocation) (request : String) (types : List String) :
    Invocation :=
  { invocation with task := .render request types none }

/-- What a run leaves once its rendering has ended. -/
def conclude (session : Session) (files : Files) (directory : Option Location)
    (output : Option String) (rendered : Except Failure (List Stage)) : Report :=
  match rendered with
  | .ok stages => deliver session files directory (output.map Location.ofText) stages
  | .error failure => reject session files directory failure

section After

variable (report : Report) (entries others : List Entry)

@[simp] theorem printed_after : (report.after entries).printed = report.printed := rfl

@[simp] theorem files_after : (report.after entries).files = report.files := rfl

@[simp] theorem result_after : (report.after entries).result = report.result := rfl

theorem after_nil : report.after [] = report := rfl

theorem after_after : (report.after entries).after others = report.after (others ++ entries) := by
  simp [Report.after]

end After

/-- A rendering is an operation of the journal, and what follows is settled by its end. -/
theorem performRender_of_keep {settings : Settings} {outcome : Outcome (List Stage)}
    {course : Course} {after : Files}
    (begun : keep directory files
      [renderOpening environment session (Location.ofText request)] = .ok started)
    (rendered : outcome = renderFile ⟨settings, environment.salt, environment.batchToken⟩
      started (Location.ofText request) (types.map Text.ofString))
    (ran : course = session.run Logger.unbound
      (renderStep environment (Location.ofText request) outcome))
    (kept : keep directory started course.entries.tail = .ok after) :
    performRender environment settings session files directory request types output =
      (conclude course.session after directory output outcome.result).after course.entries := by
  subst rendered ran
  simp only [performRender, begun, kept]
  split
  · rename_i stages ended
    rw [ended, conclude]
  · rename_i failure ended
    rw [ended, conclude]

theorem performRender_exists (settings : Settings) (session : Session) (types : List String)
    (output : Option String) (here : Opened directory files)
    (begun : keep directory files
      [renderOpening environment session (Location.ofText request)] = .ok started) :
    ∃ ending entries after, Files.Rewritten (journalFiles directory) files after ∧
      performRender environment settings session files directory request types output =
        (conclude ending after directory output
          (renderFile ⟨settings, environment.salt, environment.batchToken⟩ started
            (Location.ofText request) (types.map Text.ofString)).result).after entries := by
  obtain ⟨first, kept, begins⟩ := keep_exists here
    [renderOpening environment session (Location.ofText request)]
  obtain rfl := Except.ok.inj (kept.symm.trans begun)
  obtain ⟨after, kept, goesOn⟩ := keep_exists (here.rewritten begins) (session.run Logger.unbound
    (renderStep environment (Location.ofText request)
      (renderFile ⟨settings, environment.salt, environment.batchToken⟩ first
        (Location.ofText request) (types.map Text.ofString)))).entries.tail
  exact ⟨_, _, after, begins.trans goesOn, performRender_of_keep begun rfl rfl kept⟩

namespace Renders

variable (asks : Renders environment files opened started invocation request types output
  stored)

include asks

theorem printing :
    Renders environment files opened started (invocation.printing request types) request types
      none stored :=
  ⟨rfl, asks.opens, asks.loaded, asks.begins⟩

/-- Once the journal is open and the settings are read, a run is its task. -/
theorem perform_eq_task :
    ∃ earlier, perform environment files invocation =
      (performRender environment (stored.getD .builtin)
        (Session.initial.setUp (Verbosity.ofFlags invocation.debug invocation.trace)) opened
        (journalDirectory environment invocation) request types output).after earlier := by
  obtain ⟨task, opens, loaded, _⟩ := asks
  cases stored with
  | none =>
      refine ⟨[], ?_⟩
      simp only [perform, opens, loaded, task, performTask, Option.getD_none, after_nil]
  | some settings =>
      simp only [perform, opens, loaded, task, performTask, Option.getD_some]
      exact ⟨_, rfl⟩

/-- A run that renders adds to its journal, and then ends as its rendering. -/
theorem perform_exists :
    ∃ session entries ready,
      Files.Rewritten (journalFiles (journalDirectory environment invocation)) opened ready ∧
        perform environment files invocation =
          (conclude session ready (journalDirectory environment invocation) output
            (rendering environment started stored request types)).after entries := by
  obtain ⟨earlier, performed⟩ := asks.perform_eq_task
  obtain ⟨session, entries, ready, rewritten, ended⟩ :=
    performRender_exists (stored.getD .builtin)
      (Session.initial.setUp (Verbosity.ofFlags invocation.debug invocation.trace)) types output
      (opened_of_openJournal asks.opens) asks.begins
  refine ⟨session, earlier ++ entries, ready, rewritten, ?_⟩
  rw [performed, ended, after_after]
  rfl

end Renders

section Conclude

/-- A request is rejected for invalid input and aborted for a violated invariant. -/
theorem rejection?_coded_iff {code : Nat} :
    (∃ note, rejection? failure = some (code, note)) ↔
      (∃ cause, failure = .invalid cause) ∧ code = rejectedCode ∨
        (∃ cause, failure = .invariant cause) ∧ code = abortedCode := by
  cases failure <;> simp [rejection?, eq_comm]

theorem conclude_printed :
    conclude session files directory none (.ok stages) =
      ⟨resultText stages, "", [], files, .ok 0⟩ := rfl

/-- Delivering stages ends in success, or in the mishap of a file that cannot be written. -/
theorem conclude_delivered (session : Session) (files : Files) (directory : Option Location)
    (output : Option String) (stages : List Stage) :
    (conclude session files directory output (.ok stages)).result = .ok 0 ∨
      ∃ mishap, (conclude session files directory output (.ok stages)).result =
        .error (.mishap mishap) := by
  cases output with
  | none => exact .inl rfl
  | some path =>
      simp only [conclude, deliver, Option.map_some]
      split
      · exact .inr ⟨_, rfl⟩
      · split
        · exact .inr ⟨_, rfl⟩
        · exact .inl rfl

theorem conclude_silent {path : String} :
    (conclude session files directory (some path) (.ok stages)).printed = "" := by
  simp only [conclude, deliver, Option.map_some]
  split
  · rfl
  · split <;> rfl

variable (here : Opened directory files)

include here

/-- A failure prints nothing and changes the journal alone; its code is told, if it has one. -/
theorem conclude_failed (session : Session) (output : Option String) (failure : Failure) :
    (conclude session files directory output (.error failure)).printed = "" ∧
      Files.Rewritten (journalFiles directory) files
        (conclude session files directory output (.error failure)).files ∧
      (conclude session files directory output (.error failure)).result =
        match rejection? failure with
        | some (code, _) => .ok code
        | none => .error failure := by
  rw [conclude]
  cases told : rejection? failure with
  | none =>
      simp only [reject, told]
      exact ⟨trivial, .refl, trivial⟩
  | some rejection =>
      obtain ⟨after, kept, rewritten⟩ := keep_exists here [session.write rejection.2]
      simp only [reject, told, kept]
      exact ⟨trivial, rewritten, trivial⟩

/-- A code other than that of success is that of the failure. -/
theorem conclude_coded_iff {code : Nat} (unsuccessful : code ≠ 0) :
    (conclude session files directory output rendered).result = .ok code ↔
      ∃ failure note, rendered = .error failure ∧ rejection? failure = some (code, note) := by
  cases rendered with
  | ok stages =>
      rcases conclude_delivered session files directory output stages with
        ended | ⟨mishap, ended⟩ <;> simp [ended, unsuccessful.symm]
  | error failure =>
      obtain ⟨_, _, coded⟩ := conclude_failed here session output failure
      cases told : rejection? failure with
      | none => simp [coded, told]
      | some rejection => simp [coded, told, Prod.ext_iff]

theorem conclude_written {path : String} (accepts : files.Accepts (Location.ofText path)) :
    (conclude session files directory (some path) (.ok stages)).result = .ok 0 ∧
      (files.Apart (journalFiles directory) (Location.ofText path) →
        (conclude session files directory (some path) (.ok stages)).files.stat
            (Location.ofText path) =
          .ok (.file (Text.encodeUtf8 (resultText stages).toList))) := by
  obtain ⟨written, wrote⟩ : ∃ written, files.write (Location.ofText path)
      (Text.encodeUtf8 (resultText stages).toList) = .ok written :=
    Files.write_succeeds_iff.mpr accepts
  obtain ⟨after, kept, rewritten⟩ := keep_exists (here.write wrote)
    [session.write (writtenNote stages.length (Location.ofText path))]
  simp only [conclude, deliver, Option.map_some, wrote, kept]
  refine ⟨trivial, fun apart => ?_⟩
  rw [rewritten.stat _ (here.apart_of_write apart wrote)]
  exact Files.stat_of_write wrote

end Conclude

/-- A rendering ends in stages, in a failure that has an exit code, or in a mishap. -/
theorem rendering_ends :
    (∃ stages, rendering environment files stored request types = .ok stages) ∨
      (∃ cause, rendering environment files stored request types = .error (.invalid cause)) ∨
      (∃ cause, rendering environment files stored request types = .error (.invariant cause)) ∨
      ∃ cause, rendering environment files stored request types = .error (.mishap cause) := by
  have classed : ¬ Unclassed (rendering environment files stored request types) :=
    not_unclassed_renderFile
  cases ended : rendering environment files stored request types with
  | ok stages => simp
  | error failure =>
      cases failure with
      | general details => exact absurd ⟨_, ended, trivial⟩ classed
      | _ => simp

theorem read_resultText_iff
    (writable : (Document.list (stages.map Stage.toDocument)).Writable) :
    Json.read (resultText stages).toList = .ok (.list (stages.map Stage.toDocument)) ↔
      (Document.list (stages.map Stage.toDocument)).Unbroken := by
  have text : (resultText stages).toList =
      (Document.list (stages.map Stage.toDocument)).laidOut 0 ++ ['\n'] := by
    simp [resultText, Document.toLaidOut]
  rw [text, Json.read_laidOut_iff writable]

/-- What a run prints, writes and returns, by how its rendering ends.  What is printed reads
as the rendered stages unless one of their texts splits a pair. -/
structure Contract (environment : Environment) (files opened : Files) (words : List String)
    (invocation : Invocation) (request : String) (types : List String) (output : Option String)
    (rendered : Except Failure (List Stage)) : Prop where
  ends : (∃ stages, rendered = .ok stages) ∨ (∃ cause, rendered = .error (.invalid cause)) ∨
    (∃ cause, rendered = .error (.invariant cause)) ∨ ∃ cause, rendered = .error (.mishap cause)
  rejected : (run environment files words).result = .ok rejectedCode ↔
    ∃ cause, rendered = .error (.invalid cause)
  aborted : (run environment files words).result = .ok abortedCode ↔
    ∃ cause, rendered = .error (.invariant cause)
  failed : ∀ failure, rendered = .error failure →
    (run environment files words).printed = "" ∧
      Files.Rewritten (journalFiles (journalDirectory environment invocation)) opened
        (run environment files words).files
  printed : output = none → ∀ stages, rendered = .ok stages →
    (run environment files words).result = .ok 0 ∧
      Files.Rewritten (journalFiles (journalDirectory environment invocation)) opened
        (run environment files words).files ∧
      (Json.read (run environment files words).printed.toList =
          .ok (.list (stages.map Stage.toDocument)) ↔
        (Document.list (stages.map Stage.toDocument)).Unbroken)
  written : ∀ path, output = some path → ∀ stages, rendered = .ok stages →
    (run environment files words).printed = "" ∧
      (opened.Accepts (Location.ofText path) →
        (run environment files words).result = .ok 0 ∧
          (opened.Apart (journalFiles (journalDirectory environment invocation))
              (Location.ofText path) →
            (run environment files words).files.stat (Location.ofText path) =
              .ok (.file (Text.encodeUtf8 (perform environment files
                (invocation.printing request types)).printed.toList))))

/-- A run keeps to the contract for every plain request, whatever its files hold else. -/
theorem run_keeps_contract (understood : Invocation.ofWords words = .ok invocation)
    (asks : Renders environment files opened started invocation request types output stored)
    (plain : ∀ document, readRequest started (Location.ofText request) = .ok document →
      BuildRequest.Plain document) :
    Contract environment files opened words invocation request types output
      (rendering environment started stored request types) := by
  obtain ⟨session, entries, ready, rewritten, ended⟩ := asks.perform_exists
  have here := (opened_of_openJournal asks.opens).rewritten rewritten
  have performed : run environment files words = perform environment files invocation := by
    rw [run, understood]
  rw [ended] at performed
  constructor
  case ends => exact rendering_ends
  case rejected =>
    rw [performed, result_after, conclude_coded_iff here (by decide)]
    simp [rejection?_coded_iff, rejectedCode, abortedCode]
  case aborted =>
    rw [performed, result_after, conclude_coded_iff here (by decide)]
    simp [rejection?_coded_iff, rejectedCode, abortedCode]
  case failed =>
    intro failure failed
    rw [performed, failed, printed_after, files_after]
    obtain ⟨silent, logged, _⟩ := conclude_failed here session output failure
    exact ⟨silent, rewritten.trans logged⟩
  case printed =>
    rintro rfl stages rendered
    have writable := renderFile_writable plain rendered
    rw [performed, rendered, printed_after, result_after, files_after, conclude_printed]
    exact ⟨rfl, rewritten, read_resultText_iff writable⟩
  case written =>
    rintro path rfl stages rendered
    obtain ⟨_, _, _, _, alone⟩ := asks.printing.perform_exists
    rw [performed, alone, rendered, printed_after, printed_after, files_after, result_after,
      conclude_printed]
    refine ⟨conclude_silent, fun accepts => ?_⟩
    have held := opened_of_openJournal asks.opens
    obtain ⟨succeeds, wrote⟩ := conclude_written here (rewritten.accepts held accepts)
    exact ⟨succeeds, fun apart => wrote (rewritten.apart apart)⟩

/-- A request to describe a medium for an architecture with a control character, a quote and
a character beyond the basic plane in its name. -/
def strangeRequest : Document := .record [
  ("arch", .text "\x01\"😀"),
  ("stages", .list [.record [("type", .text "org.osbuild.discinfo")]])]

def strangeFiles : Files :=
  ⟨[(["build.json"], .file (Text.encodeUtf8 (strangeRequest.laidOut 0 ++ ['\n'])))]⟩

/-- The same files beside those of a journal without entries. -/
def loggedFiles : Files :=
  ⟨strangeFiles.entries ++ [(["logs"], .directory), (["logs", operationsFile], .file []),
    (["logs", recordsFile], .file [])]⟩

def quietEnvironment : Environment :=
  ⟨"settings.json", none, "salt", ⟨"operation", .finite false 0 0⟩, "batch"⟩

def loggingEnvironment : Environment :=
  { quietEnvironment with logDirectory := some "logs" }

def strangeInvocation (output : Option String) : Invocation where
  debug := false
  trace := false
  logDirectory := none
  settings := none
  task := .render "build.json" [] output

theorem strangeRequest_plain : BuildRequest.Plain strangeRequest where
  realFree := by
    simp [BuildRequest.withoutExtents, strangeRequest, Document.record, Document.changeField,
      Fields.change, Document.RealFree, Document.Throughout.object_iff,
      Document.Throughout.list_iff, Document.Throughout.scalar_iff]
  named := by
    intro request accepted
    obtain rfl := Except.ok.inj accepted
    exact ⟨by simp, by simp⟩

section Logged

theorem loggedFiles_opened :
    openJournal (some (Location.ofText "logs")) strangeFiles = .ok loggedFiles :=
  Except.eq_ok_of_toOption (by decide +kernel)

theorem loggedFiles_settings :
    Settings.load? loggedFiles (Location.ofText "settings.json") = .ok none := by
  have absent : loggedFiles.exists? (Location.ofText "settings.json") = .ok false :=
    Except.eq_ok_of_toOption (by decide +kernel)
  rw [Settings.load?, absent]
  rfl

/-- What leads elsewhere than to the two files of the journal is apart from them. -/
theorem loggedFiles_apart {location : Location} {place : List String}
    (resolved : loggedFiles.resolve location = .ok place)
    (operations : place ≠ ["logs", operationsFile]) (records : place ≠ ["logs", recordsFile]) :
    loggedFiles.Apart (journalFiles (some (Location.ofText "logs"))) location := by
  have operationsPlace : loggedFiles.resolve ((Location.ofText "logs").child operationsFile) =
      .ok ["logs", operationsFile] := Except.eq_ok_of_toOption (by decide +kernel)
  have recordsPlace : loggedFiles.resolve ((Location.ofText "logs").child recordsFile) =
      .ok ["logs", recordsFile] := Except.eq_ok_of_toOption (by decide +kernel)
  simp [Files.Apart, journalFiles, resolved, operationsPlace, recordsPlace, operations.symm,
    records.symm]

theorem outFile_resolves :
    loggedFiles.resolve (Location.ofText "out.json") = .ok ["out.json"] :=
  Except.eq_ok_of_toOption (by decide +kernel)

theorem outFile_accepted : loggedFiles.Accepts (Location.ofText "out.json") :=
  ⟨by decide +kernel, ["out.json"], outFile_resolves, by decide +kernel⟩

/-- Once the start is kept, the request is there as before. -/
theorem strangeInvocation_renders :
    ∃ started, (∀ output, Renders loggingEnvironment strangeFiles loggedFiles started
        (strangeInvocation output) "build.json" [] output none) ∧
      readRequest started (Location.ofText "build.json") = .ok strangeRequest := by
  have here : Opened (some (Location.ofText "logs")) loggedFiles :=
    opened_of_openJournal loggedFiles_opened
  obtain ⟨started, begins, rewritten⟩ := keep_exists here
    [(strangeInvocation none).opening loggingEnvironment "build.json"]
  have resolved : loggedFiles.resolve (Location.ofText "build.json") = .ok ["build.json"] :=
    Except.eq_ok_of_toOption (by decide +kernel)
  have held : loggedFiles.readText (Location.ofText "build.json") =
      .ok (strangeRequest.laidOut 0 ++ ['\n']) := Except.eq_ok_of_toOption (by decide +kernel)
  have writable : strangeRequest.Writable := by simp [strangeRequest]
  have unbroken : strangeRequest.Unbroken := by simp [strangeRequest]
  refine ⟨started, fun output => ⟨rfl, loggedFiles_opened, loggedFiles_settings, begins⟩, ?_⟩
  rw [← rewritten.readText (loggedFiles_apart resolved (by decide) (by decide))] at held
  exact readRequest_ok_iff.mpr ⟨_, held, Json.read_laidOut writable unbroken⟩

end Logged

def strangeStage : Stage where
  type := "org.osbuild.discinfo"
  options := options [("basearch", .text "\x01\"😀"), ("release", .text "202010217.n.0")]

/-- The description is printed, or written to a file that is not there yet. -/
theorem run_describes_medium :
    Json.read (run loggingEnvironment strangeFiles ["render", "build.json"]).printed.toList =
        .ok (.list [strangeStage.toDocument]) ∧
      (run loggingEnvironment strangeFiles
        ["render", "build.json", "-o", "out.json"]).printed = "" ∧
      (run loggingEnvironment strangeFiles
          ["render", "build.json", "-o", "out.json"]).files.stat (Location.ofText "out.json") =
        .ok (.file (Text.encodeUtf8
          (run loggingEnvironment strangeFiles ["render", "build.json"]).printed.toList)) := by
  obtain ⟨started, renders, read⟩ := strangeInvocation_renders
  have plain : ∀ document, readRequest started (Location.ofText "build.json") = .ok document →
      BuildRequest.Plain document := by
    intro document held
    obtain rfl := Except.ok.inj (read.symm.trans held)
    exact strangeRequest_plain
  have printing : Invocation.ofWords ["render", "build.json"] = .ok (strangeInvocation none) :=
    Except.eq_ok_of_toOption (by decide +kernel)
  have writing : Invocation.ofWords ["render", "build.json", "-o", "out.json"] =
      .ok (strangeInvocation (some "out.json")) := Except.eq_ok_of_toOption (by decide +kernel)
  have asks : Catalog.Asks [(.text "type", .text "org.osbuild.discinfo")] ⟨.discinfo, []⟩ :=
    ⟨rfl, .inr ⟨rfl, rfl⟩⟩
  have rendered : rendering loggingEnvironment started none "build.json" [] =
      .ok [strangeStage] :=
    rendering_singleton read rfl rfl asks rfl
  have contract := run_keeps_contract printing (renders none) plain
  have contractOfFile := run_keeps_contract writing (renders (some "out.json")) plain
  obtain ⟨_, _, parsed⟩ := contract.printed rfl _ rendered
  have unbroken : (Document.list ([strangeStage].map Stage.toDocument)).Unbroken := by
    simp [strangeStage, Stage.toDocument, Document.unbroken_options_iff]
  obtain ⟨silent, written⟩ := contractOfFile.written "out.json" rfl _ rendered
  have alone : run loggingEnvironment strangeFiles ["render", "build.json"] =
      perform loggingEnvironment strangeFiles (strangeInvocation none) := by
    rw [run, printing]
  refine ⟨parsed.mpr unbroken, silent, ?_⟩
  rw [alone]
  exact (written outFile_accepted).2 (loggedFiles_apart outFile_resolves (by decide) (by decide))

def firstHalf : CodePoint := .surrogate ⟨0x3d, by decide⟩

def secondHalf : CodePoint := .surrogate ⟨0x600, by decide⟩

/-- A label that has the first half of a pair before its place. -/
def halvedLabel : Fields :=
  options [("filename", .text "a.iso"), ("isolabel", .text (firstHalf :: Text.ofString "%s"))]

/-- A request for a medium with the label, whose place the second half fills. -/
def halvedRequest : Document := .record [
  ("arch", .text [secondHalf]),
  ("stages", .list [.record [
    ("type", .text "org.osbuild.xorrisofs"), ("params", .object halvedLabel)]])]

def halvedFiles : Files :=
  ⟨[(["build.json"], .file (Text.encodeUtf8 (halvedRequest.laidOut 0 ++ ['\n'])))]⟩

def labelledStage (label : Text) : Stage where
  type := "org.osbuild.xorrisofs"
  options := options [("filename", .text "a.iso"), ("volid", .text label),
    ("sysid", .text "LINUX"), ("efi", .text "images/efiboot.img")]

section Halved

theorem halvedFiles_request :
    readRequest halvedFiles (Location.ofText "build.json") = .ok halvedRequest := by
  have held : halvedFiles.readText (Location.ofText "build.json") =
      .ok (halvedRequest.laidOut 0 ++ ['\n']) := Except.eq_ok_of_toOption (by decide +kernel)
  have arch : Text.Unsplit [secondHalf] := by decide
  have label : Text.Unsplit (firstHalf :: Text.ofString "%s") := by decide
  have writable : halvedRequest.Writable := by
    simp [halvedRequest, halvedLabel, Document.writable_options_iff]
  have unbroken : halvedRequest.Unbroken := by
    simp [halvedRequest, halvedLabel, Document.unbroken_options_iff, arch, label]
  exact readRequest_ok_iff.mpr ⟨_, held, Json.read_laidOut writable unbroken⟩

theorem halvedFiles_settings :
    Settings.load? halvedFiles (Location.ofText "settings.json") = .ok none := by
  have absent : halvedFiles.exists? (Location.ofText "settings.json") = .ok false :=
    Except.eq_ok_of_toOption (by decide +kernel)
  rw [Settings.load?, absent]
  rfl

theorem labelledStage_writable (label : Text) :
    (Document.list ([labelledStage label].map Stage.toDocument)).Writable := by
  simp [labelledStage, Stage.toDocument, Document.writable_options_iff]

theorem labelledStage_unbroken_iff {label : Text} :
    (Document.list ([labelledStage label].map Stage.toDocument)).Unbroken ↔ label.Unsplit := by
  simp [labelledStage, Stage.toDocument, Document.unbroken_options_iff]

end Halved

/-- The rendered label has two halves side by side, and what is printed for them reads as the
one character that they make. -/
theorem run_joinsHalves :
    rendering quietEnvironment halvedFiles none "build.json" [] =
        .ok [labelledStage [firstHalf, secondHalf]] ∧
      (run quietEnvironment halvedFiles ["render", "build.json"]).result = .ok 0 ∧
      Json.read (run quietEnvironment halvedFiles ["render", "build.json"]).printed.toList =
        .ok (.list [(labelledStage "😀").toDocument]) ∧
      Json.read (run quietEnvironment halvedFiles ["render", "build.json"]).printed.toList ≠
        .ok (.list [(labelledStage [firstHalf, secondHalf]).toDocument]) := by
  have asks : Catalog.Asks [(.text "type", .text "org.osbuild.xorrisofs"),
      (.text "params", .object halvedLabel)] ⟨.mediumAssembly, halvedLabel⟩ := ⟨rfl, .inl rfl⟩
  have rendered : rendering quietEnvironment halvedFiles none "build.json" [] =
      .ok [labelledStage [firstHalf, secondHalf]] :=
    rendering_singleton halvedFiles_request rfl rfl asks rfl
  have understood : Invocation.ofWords ["render", "build.json"] = .ok (strangeInvocation none) :=
    Except.eq_ok_of_toOption (by decide +kernel)
  have asks : Renders quietEnvironment halvedFiles halvedFiles halvedFiles
      (strangeInvocation none) "build.json" [] none none := ⟨rfl, rfl, halvedFiles_settings, rfl⟩
  obtain ⟨_, _, _, _, ended⟩ := asks.perform_exists
  have alike : resultText [labelledStage [firstHalf, secondHalf]] =
      resultText [labelledStage "😀"] := by decide +kernel
  have whole := (read_resultText_iff (labelledStage_writable "😀")).mpr
    (labelledStage_unbroken_iff.mpr (Text.unsplit_ofString "😀"))
  have split : ¬ Text.Unsplit [firstHalf, secondHalf] := by decide
  have ran : run quietEnvironment halvedFiles ["render", "build.json"] =
      perform quietEnvironment halvedFiles (strangeInvocation none) := by
    rw [run, understood]
  rw [ran, ended, rendered, printed_after, result_after, conclude_printed]
  refine ⟨rfl, rfl, alike ▸ whole, fun same => split ?_⟩
  exact labelledStage_unbroken_iff.mp ((read_resultText_iff (labelledStage_writable _)).mp same)

end ImageStages.Command
