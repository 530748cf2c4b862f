import ImageStages.Proofs.Catalog.Jobs
import ImageStages.Proofs.Command.Logs
import ImageStages.Proofs.Command.Output

namespace ImageStages.Command

/-! Runs of one command line.

Two runs of the same command line are jobs of their own, and may show more or less of what
they write.  Step by step both leave the same files, but that a file of the journal tells of
the one job or the other. -/

open Text (Location)

/-- The environments differ in nothing but the jobs of their runs. -/
structure Environment.SameSort (left right : Environment) : Prop where
  settingsPath : left.settingsPath = right.settingsPath
  logDirectory : left.logDirectory = right.logDirectory
  salt : left.salt = right.salt

namespace Environment.SameSort

variable {first second third : Environment}

theorem refl (environment : Environment) : environment.SameSort environment :=
  ⟨rfl, rfl, rfl⟩

theorem symm (alike : first.SameSort second) : second.SameSort first :=
  ⟨alike.settingsPath.symm, alike.logDirectory.symm, alike.salt.symm⟩

theorem trans (alike : first.SameSort second) (also : second.SameSort third) :
    first.SameSort third :=
  ⟨alike.settingsPath.trans also.settingsPath, alike.logDirectory.trans also.logDirectory,
    alike.salt.trans also.salt⟩

end Environment.SameSort

/-- How a command line begins: with its journal, if it has one, and the files once that is
open.  The result is written to the output, if there is one. -/
structure Opening where
  journal : Option Location
  files : Files
  output : Option Location

/-- What a file of the journal holds before any entry: what it held when the journal was
opened, or stages that were written over it. -/
def Log.Base (log : Log) (directory : Location) (opening : Opening) (base : List UInt8) :
    Prop :=
  opening.files.stat (log.location directory) = .ok (.file base) ∨
    ∃ path stages, opening.output = some path ∧
      opening.files.resolve path = opening.files.resolve (log.location directory) ∧
      base = Text.encodeUtf8 (resultText stages).toList

/-- In both runs a file of the journal holds the same, and after it the same of the last
entries but for their jobs. -/
def Log.SameSort (log : Log) (directory : Location) (opening : Opening) (left right : Files)
    (entries others : List Entry) : Prop :=
  ∃ base recent latest, log.Base directory opening base ∧
    recent <:+ entries ∧ latest <:+ others ∧ maskedRecords recent = maskedRecords latest ∧
    left.stat (log.location directory) = .ok (.file (base ++ log.octets recent)) ∧
    right.stat (log.location directory) = .ok (.file (base ++ log.octets latest))

/-- Two runs have come as far: they wrote the same entries but for the jobs, and left the
same files but for those of the journal, which hold such entries. -/
structure Abreast (opening : Opening) (left right : Files) (entries others : List Entry) :
    Prop where
  records : maskedRecords entries = maskedRecords others
  files : Files.SameBut (journalFiles opening.journal) left right
  logs : ∀ directory, opening.journal = some directory →
    ∀ log : Log, log.SameSort directory opening left right entries others

theorem Opened.log {opening : Opening} {directory : Location}
    (here : Opened opening.journal opening.files) (journal : opening.journal = some directory)
    (log : Log) : opening.files.IsFile (log.location directory) :=
  here _ (by rw [journal]; exact log.location_mem directory)

theorem opened_of_logs {journal : Option Location} {files : Files}
    (held : ∀ directory, journal = some directory →
      ∀ log : Log, files.IsFile (log.location directory)) : Opened journal files := by
  cases journal with
  | none => simp [Opened, journalFiles]
  | some directory =>
      simp only [Opened, journalFiles, List.forall_mem_cons]
      exact ⟨held directory rfl .operations, held directory rfl .records, by simp⟩

namespace Abreast

variable {opening : Opening} {left right : Files} {entries others : List Entry}

/-- Runs begin abreast. -/
theorem start (here : Opened opening.journal opening.files) :
    Abreast opening opening.files opening.files [] [] where
  records := rfl
  files := .refl _ _
  logs directory journal log := by
    obtain ⟨base, held⟩ := here.log journal log
    exact ⟨base, [], [], .inl held, List.suffix_rfl, List.suffix_rfl, rfl,
      by simpa using held, by simpa using held⟩

variable (abreast : Abreast opening left right entries others)

include abreast

theorem opened : Opened opening.journal left ∧ Opened opening.journal right := by
  refine ⟨opened_of_logs fun directory journal log => ?_,
    opened_of_logs fun directory journal log => ?_⟩
  all_goals
    obtain ⟨base, recent, latest, _, _, _, _, held, also⟩ := abreast.logs directory journal log
    exact ⟨_, by assumption⟩

/-- What was written before the entries makes no difference. -/
theorem preceded {earlier preceding : List Entry}
    (same : maskedRecords earlier = maskedRecords preceding) :
    Abreast opening left right (earlier ++ entries) (preceding ++ others) where
  records := by simp only [maskedRecords_append, same, abreast.records]
  files := abreast.files
  logs directory journal log := by
    obtain ⟨base, recent, latest, begins, ends, finish, masked, held, also⟩ :=
      abreast.logs directory journal log
    exact ⟨base, recent, latest, begins, ends.trans (List.suffix_append _ _),
      finish.trans (List.suffix_append _ _), masked, held, also⟩

/-- Entries that are the same but for their jobs are added in both. -/
theorem keep {added more : List Entry} (same : maskedRecords added = maskedRecords more) :
    ∃ after written, Command.keep opening.journal left added = .ok after ∧
      Command.keep opening.journal right more = .ok written ∧
      (∀ location, after.resolve location = left.resolve location) ∧
      Abreast opening after written (entries ++ added) (others ++ more) := by
  obtain ⟨here, there⟩ := abreast.opened
  obtain ⟨after, kept, rewritten⟩ := keep_exists here added
  obtain ⟨written, also, _⟩ := keep_exists there more
  refine ⟨after, written, kept, also, rewritten.resolve, ?_, keep_sameBut abreast.files kept also,
    fun directory journal log => ?_⟩
  · simp only [maskedRecords_append, same, abreast.records]
  · obtain ⟨base, recent, latest, begins, ends, finish, masked, held, holds⟩ :=
      abreast.logs directory journal log
    rw [journal] at kept also
    refine ⟨base, recent ++ added, latest ++ more, begins, ?_, ?_, ?_, ?_, ?_⟩
    · exact (List.suffix_append_inj_of_length_eq rfl).mpr ⟨ends, rfl⟩
    · exact (List.suffix_append_inj_of_length_eq rfl).mpr ⟨finish, rfl⟩
    · simp only [maskedRecords_append, same, masked]
    · simpa using stat_of_keep kept held
    · simpa using stat_of_keep also holds

/-- Stages are written in both, or in neither for the same reason. -/
theorem write {path : Location} (output : opening.output = some path)
    (led : ∀ location, left.resolve location = opening.files.resolve location)
    (stages : List Stage) :
    (∃ mishap, left.write path (Text.encodeUtf8 (resultText stages).toList) = .error mishap ∧
        right.write path (Text.encodeUtf8 (resultText stages).toList) = .error mishap) ∨
      ∃ after written,
        left.write path (Text.encodeUtf8 (resultText stages).toList) = .ok after ∧
        right.write path (Text.encodeUtf8 (resultText stages).toList) = .ok written ∧
        Abreast opening after written entries others := by
  refine (abreast.files.write path _).imp_right fun wrote => ?_
  obtain ⟨after, written, wrote, also, same⟩ := wrote
  refine ⟨after, written, wrote, also, abreast.records, same, fun directory journal log => ?_⟩
  obtain ⟨base, recent, latest, begins, ends, finish, masked, held, holds⟩ :=
    abreast.logs directory journal log
  -- A result may be written over a file of the journal, whose entries so far are then gone.
  by_cases aliased : left.resolve path = left.resolve (log.location directory)
  · have other : right.resolve path = right.resolve (log.location directory) := by
      rw [← abreast.files.resolve, ← abreast.files.resolve, aliased]
    refine ⟨_, [], [], .inr ⟨path, stages, output, ?_, rfl⟩, List.nil_suffix, List.nil_suffix,
      rfl, ?_, ?_⟩
    · rw [← led, ← led, aliased]
    · simpa using Files.stat_of_write_same wrote aliased
    · simpa using Files.stat_of_write_same also other
  · have other : right.resolve path ≠ right.resolve (log.location directory) := by
      rwa [← abreast.files.resolve, ← abreast.files.resolve]
    exact ⟨base, recent, latest, begins, ends, finish, masked,
      Files.stat_of_write_apart wrote held aliased, Files.stat_of_write_apart also holds other⟩

end Abreast

/-- The reports are the same but for the jobs that they tell of. -/
structure Report.SameSort (opening : Opening) (left right : Report) : Prop where
  printed : left.printed = right.printed
  usage : left.usage = right.usage
  result : left.result = right.result
  abreast : Abreast opening left.files right.files left.entries right.entries

namespace Report.SameSort

variable {opening : Opening} {left right : Report}

/-- A report of nothing but what was printed and returned. -/
theorem untouched (opening : Opening) (here : Opened opening.journal opening.files)
    (printed : String) (usage : Text) (result : Except Failure Nat) :
    SameSort opening ⟨printed, usage, [], opening.files, result⟩
      ⟨printed, usage, [], opening.files, result⟩ :=
  ⟨rfl, rfl, rfl, .start here⟩

theorem after (alike : SameSort opening left right) {entries others : List Entry}
    (same : maskedRecords entries = maskedRecords others) :
    SameSort opening (left.after entries) (right.after others) :=
  ⟨alike.printed, alike.usage, alike.result, alike.abreast.preceded same⟩

end Report.SameSort

section Render

variable {opening : Opening} {left right : Files} {entries others : List Entry}
  {environment other : Environment} {session otherSession : Session}

theorem conclude_sameSort {output : Option String} (sessions : session.SameSort otherSession)
    (abreast : Abreast opening left right entries others)
    (led : ∀ location, left.resolve location = opening.files.resolve location)
    (outputs : opening.output = output.map Location.ofText)
    (rendered : Except Failure (List Stage)) :
    Report.SameSort opening
      ((conclude session left opening.journal output rendered).after entries)
      ((conclude otherSession right opening.journal output rendered).after others) := by
  cases rendered with
  | error failure =>
      simp only [conclude, reject]
      cases rejection? failure with
      | none => exact ⟨rfl, rfl, rfl, by simpa [Report.after] using abreast⟩
      | some rejection =>
          obtain ⟨code, note⟩ := rejection
          obtain ⟨after, written, kept, also, _, abreast⟩ :=
            abreast.keep (sessions.maskedRecords_write note)
          simp only [kept, also]
          exact ⟨rfl, rfl, rfl, abreast⟩
  | ok stages =>
      cases output with
      | none => exact ⟨rfl, rfl, rfl, by simpa [conclude_printed, Report.after] using abreast⟩
      | some path =>
          simp only [conclude, deliver, Option.map_some]
          rcases abreast.write outputs led stages with
            ⟨mishap, refused, also⟩ | ⟨after, written, wrote, also, abreast⟩
          · simp only [refused, also]
            exact ⟨rfl, rfl, rfl, by simpa [Report.after] using abreast⟩
          · obtain ⟨_, _, kept, keeps, _, abreast⟩ := abreast.keep
              (sessions.maskedRecords_write (writtenNote stages.length (Location.ofText path)))
            simp only [wrote, also, kept, keeps]
            exact ⟨rfl, rfl, rfl, abreast⟩

theorem readRequest_congr {location : Location}
    (same : left.readText location = right.readText location) :
    readRequest left location = readRequest right location := by
  rw [readRequest, readRequest, same]

theorem renderFile_sameSort {surroundings others : Surroundings} {location : Location}
    (alike : surroundings.SameSort others)
    (same : readRequest left location = readRequest right location) (types : List Text) :
    Outcome.Agree Note.SameSort Eq (renderFile surroundings left location types)
      (renderFile others right location types) := by
  unfold renderFile
  rw [same]
  refine (Outcome.Agree.refl Note.SameSort.refl _).bind fun {document _} same => ?_
  obtain rfl := same
  refine (Outcome.Agree.refl Note.SameSort.refl _).bind fun {request _} same => ?_
  obtain rfl := same
  exact Catalog.renderBatch_sameSort alike _ _

theorem renderDetails_allowed (location : Location) :
    Operation.refusal? (renderDetails location) = none := rfl

/-- The entries of a rendering begin with that of its start. -/
theorem entries_renderStep (environment : Environment) (session : Session)
    (location : Location) (outcome : Outcome (List Stage)) :
    ∃ rest, (session.run Logger.unbound (renderStep environment location outcome)).entries =
      renderOpening environment session location :: rest := by
  rw [renderStep, Session.run_operation (renderDetails_allowed location)]
  exact ⟨_, rfl⟩

theorem session_renderStep (environment : Environment) (session : Session)
    (location : Location) (outcome : Outcome (List Stage)) :
    (session.run Logger.unbound (renderStep environment location outcome)).session = session :=
  Session.session_run_operation session Logger.unbound "render" environment.operation
    (renderDetails_allowed location) outcome

/-- The start of a rendering is kept in both jobs, and then the request is there in both as
it was, if it is no file of the journal. -/
theorem Abreast.started {location : Location} (environment other : Environment)
    (sessions : session.SameSort otherSession) (here : Opened opening.journal opening.files)
    (apart : opening.files.Apart (journalFiles opening.journal) location) :
    ∃ left right,
      Command.keep opening.journal opening.files [renderOpening environment session location] =
        .ok left ∧
      Command.keep opening.journal opening.files [renderOpening other otherSession location] =
        .ok right ∧
      readRequest left location = readRequest right location ∧
      (∀ location, left.resolve location = opening.files.resolve location) ∧
      Abreast opening left right [renderOpening environment session location]
        [renderOpening other otherSession location] := by
  have jobs := Operation.jobSort_job "render" environment.operation.token other.operation.token
  have inside := sessions.enter jobs "render" (renderDetails location)
  have starts : maskedRecords [renderOpening environment session location] =
      maskedRecords [renderOpening other otherSession location] :=
    congrArg (fun record => [record])
      (inside.write (Operation.startNote_sameSort jobs "render" _))
  obtain ⟨left, right, kept, also, led, abreast⟩ := (Abreast.start here).keep starts
  obtain ⟨_, first, rewritten⟩ :=
    keep_exists here [renderOpening environment session location]
  obtain rfl := Except.ok.inj (kept.symm.trans first)
  obtain ⟨_, second, rewrittenOther⟩ :=
    keep_exists here [renderOpening other otherSession location]
  obtain rfl := Except.ok.inj (also.symm.trans second)
  refine ⟨_, _, kept, also, readRequest_congr ?_, led, abreast⟩
  rw [rewritten.readText apart, rewrittenOther.readText apart]

/-- A rendering is the same in each job, and so is what a run leaves of it, if the request is
no file of the journal. -/
theorem performRender_sameSort (environments : environment.SameSort other)
    (sessions : session.SameSort otherSession) (here : Opened opening.journal opening.files)
    (settings : Settings) {request : String} (types : List String) {output : Option String}
    (outputs : opening.output = output.map Location.ofText)
    (apart : opening.files.Apart (journalFiles opening.journal) (Location.ofText request)) :
    Report.SameSort opening
      (performRender environment settings session opening.files opening.journal request types
        output)
      (performRender other settings otherSession opening.files opening.journal request types
        output) := by
  obtain ⟨left, right, begun, alsoBegun, read, led, abreast⟩ :=
    Abreast.started environment other sessions here apart
  have surroundings : Surroundings.SameSort ⟨settings, environment.salt, environment.batchToken⟩
      ⟨settings, other.salt, other.batchToken⟩ := ⟨rfl, environments.salt⟩
  have agree := renderFile_sameSort surroundings read (types.map Text.ofString)
  have records := sessions.run_operation agree .unbound .unbound "render"
    environment.operation other.operation (renderDetails_allowed (Location.ofText request))
  obtain ⟨rest, entries⟩ := entries_renderStep environment session (Location.ofText request)
    (renderFile ⟨settings, environment.salt, environment.batchToken⟩ left
      (Location.ofText request) (types.map Text.ofString))
  obtain ⟨others, otherEntries⟩ := entries_renderStep other otherSession
    (Location.ofText request) (renderFile ⟨settings, other.salt, other.batchToken⟩ right
      (Location.ofText request) (types.map Text.ofString))
  rw [renderStep] at entries otherEntries
  rw [entries, otherEntries, maskedRecords_cons, maskedRecords_cons] at records
  obtain ⟨after, written, kept, also, ledOn, abreast⟩ := abreast.keep (List.cons.inj records).2
  rw [performRender_of_keep begun rfl rfl (by rw [renderStep, entries]; exact kept),
    performRender_of_keep alsoBegun rfl rfl (by rw [renderStep, otherEntries]; exact also),
    session_renderStep, session_renderStep, renderStep, renderStep, entries, otherEntries,
    agree.result_eq]
  exact conclude_sameSort sessions abreast (fun location => (ledOn location).trans (led location))
    outputs _

end Render

end ImageStages.Command
