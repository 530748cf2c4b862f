import ImageStages.Proofs.Command.Output
import ImageStages.Proofs.Settings.Fallback

namespace ImageStages.Command

open Text (Location)

variable {environment : Environment} {files opened started : Files} {words : List String}
  {invocation : Invocation} {request : String} {types : List String} {output : Option String}
  {stored : Option Settings} {location : Location} {surroundings : Surroundings}
  {mishap : Mishap} {failure : Failure}

theorem readRequest_mishap_iff :
    readRequest files location = .error (.mishap mishap) ↔ files.BreaksOff location mishap := by
  constructor
  · intro failed
    unfold readRequest at failed
    split at failed
    · cases failed
    · rename_i cause other unread
      cases failed
      refine .octets unread fun family => ?_
      cases mishap <;> simp [Mishap.family] at family other
    · rename_i s held
      split at failed
      · cases failed
      · cases failed
      · rename_i count endless
        cases failed
        exact .digits held endless
  · intro breaks
    cases breaks with
    | octets unread other =>
        cases mishap with
        | file error => exact absurd rfl other
        | _ => simp [readRequest, unread]
    | digits held endless => simp [readRequest, held, endless]

theorem readRequest_error
    (failed : readRequest files location = .error failure) :
    (∃ cause, failure = .invalid cause) ∨ ∃ mishap, failure = .mishap mishap := by
  unfold readRequest at failed
  repeat' split at failed
  all_goals cases failed
  all_goals simp [Failure.badRequest]

/-- Where a run looks for settings. -/
def settingsLocation (environment : Environment) (invocation : Invocation) : Location :=
  Location.ofText (invocation.settings.getD environment.settingsPath)

/-- Without an object the rendering is rejected, unless the reading of the request breaks off. -/
theorem renderFile_objectless {wanted : List Text} (objectless : files.Objectless location) :
    (¬ files.Unreadable location ∧
        ∃ cause, (renderFile surroundings files location wanted).result =
          .error (.invalid cause)) ∨
      files.Unreadable location ∧
        ∃ mishap, (renderFile surroundings files location wanted).result =
          .error (.mishap mishap) := by
  rw [← Files.breaksOff_iff]
  simp only [← readRequest_mishap_iff]
  cases read : readRequest files location with
  | error failure =>
      rcases readRequest_error read with ⟨cause, rfl⟩ | ⟨mishap, rfl⟩ <;>
        simp [renderFile, read]
  | ok document =>
      have refused : ∃ cause, BuildRequest.ofDocument document = .error (.invalid cause) := by
        cases document with
        | object fields =>
            obtain ⟨octets, contains, object⟩ := Files.document_iff.mp (readRequest_ok_iff.mp read)
            exact absurd object (objectless octets fields contains)
        | _ => exact ⟨_, rfl⟩
      obtain ⟨cause, refused⟩ := refused
      exact .inl (by simp [renderFile, read, refused])

/-- What a run leaves that renders no request. -/
structure Unrendered (environment : Environment) (opened started : Files)
    (invocation : Invocation) (request : String) (report : Report) : Prop where
  silent : report.printed = ""
  unwritten : Files.Rewritten (journalFiles (journalDirectory environment invocation)) opened
    report.files
  rejected : report.result = .ok rejectedCode ↔
    ¬ Settings.Escapes opened (settingsLocation environment invocation) ∧
      ¬ started.Unreadable (Location.ofText request)
  ends : report.result = .ok rejectedCode ∨ ∃ mishap, report.result = .error (.mishap mishap)

/-- A failed rendering prints nothing, adds to the journal alone, and ends by its failure. -/
theorem Renders.perform_failed
    (asks : Renders environment files opened started invocation request types output stored)
    (failed : rendering environment started stored request types = .error failure) :
    (perform environment files invocation).printed = "" ∧
      Files.Rewritten (journalFiles (journalDirectory environment invocation)) opened
        (perform environment files invocation).files ∧
      (perform environment files invocation).result =
        match rejection? failure with
        | some (code, _) => .ok code
        | none => .error failure := by
  obtain ⟨session, entries, ready, rewritten, ended⟩ := asks.perform_exists
  have here := (opened_of_openJournal asks.opens).rewritten rewritten
  obtain ⟨silent, logged, coded⟩ := conclude_failed here session output failure
  rw [ended, failed, printed_after, files_after, result_after]
  exact ⟨silent, rewritten.trans logged, coded⟩

theorem Renders.unrendered
    (asks : Renders environment files opened started invocation request types output stored)
    (objectless : started.Objectless (Location.ofText request)) :
    Unrendered environment opened started invocation request
      (perform environment files invocation) := by
  have stays : ¬ Settings.Escapes opened (settingsLocation environment invocation) := by
    simp [Settings.escapes_iff_load?, settingsLocation, asks.loaded]
  rcases renderFile_objectless objectless with
    ⟨readable, cause, failed⟩ | ⟨unreadable, mishap, failed⟩
  · obtain ⟨silent, logged, coded⟩ := asks.perform_failed failed
    exact ⟨silent, logged, by simp [coded, rejection?, stays, readable],
      .inl (by simp [coded, rejection?])⟩
  · obtain ⟨silent, logged, coded⟩ := asks.perform_failed failed
    exact ⟨silent, logged, by simp [coded, rejection?, unreadable],
      .inr ⟨mishap, by simp [coded, rejection?]⟩⟩

theorem perform_unsettled {mishap : Mishap}
    (opens : openJournal (journalDirectory environment invocation) files = .ok opened)
    (broken : Settings.load? opened (settingsLocation environment invocation) = .error mishap) :
    perform environment files invocation = ⟨"", [], [], opened, .error (.mishap mishap)⟩ := by
  rw [settingsLocation] at broken
  simp only [perform, opens, broken]

/-- A run whose request holds no object rejects it, unless the settings or the request break
the run off.  Without a journal the request is read from the files as they are. -/
theorem run_objectless (understood : Invocation.ofWords words = .ok invocation)
    (task : invocation.task = .render request types output)
    (opens : openJournal (journalDirectory environment invocation) files = .ok opened)
    (begins : keep (journalDirectory environment invocation) opened
      [invocation.opening environment request] = .ok started)
    (objectless : started.Objectless (Location.ofText request)) :
    Unrendered environment opened started invocation request (run environment files words) := by
  have performed : run environment files words = perform environment files invocation := by
    rw [run, understood]
  rw [performed]
  cases loaded : Settings.load? opened (settingsLocation environment invocation) with
  | error mishap =>
      have escapes := Settings.escapes_iff_load?.mpr ⟨mishap, loaded⟩
      rw [perform_unsettled opens loaded]
      exact ⟨rfl, .refl, by simp [escapes], .inr ⟨mishap, rfl⟩⟩
  | ok stored =>
      have asks : Renders environment files opened started invocation request types output
          stored := ⟨task, opens, loaded, begins⟩
      exact asks.unrendered objectless

section OneFile

/-- A file with the request, and nothing else. -/
def requestFiles (octets : List UInt8) : Files :=
  ⟨[(["build.json"], .file octets)]⟩

def filteredWords : List String :=
  ["render", "build.json", "--stage", "org.osbuild.rpm", "-o", "out.json"]

def filteredInvocation : Invocation where
  debug := false
  trace := false
  logDirectory := none
  settings := none
  task := .render "build.json" ["org.osbuild.rpm"] (some "out.json")

theorem filteredWords_understood : Invocation.ofWords filteredWords = .ok filteredInvocation :=
  Except.eq_ok_of_toOption (by decide +kernel)

variable {octets : List UInt8}

theorem requestFiles_contains :
    (requestFiles octets).Contains (Location.ofText "build.json") octets :=
  ⟨by decide, Except.eq_ok_of_toOption rfl⟩

theorem requestFiles_settings :
    Settings.load? (requestFiles octets) (Location.ofText "settings.json") = .ok none := by
  have absent : (requestFiles octets).exists? (Location.ofText "settings.json") = .ok false :=
    Except.eq_ok_of_toOption rfl
  rw [Settings.load?, absent]
  rfl

theorem requestFiles_objectless
    (none : ∀ fields, ¬ Files.IsDocument octets (.object fields)) :
    (requestFiles octets).Objectless (Location.ofText "build.json") := by
  intro held fields contains
  rw [requestFiles_contains.unique contains]
  exact none fields

/-- A request that ends behind its first brace is rejected, and no result is written. -/
theorem run_objectless_unclosed :
    (run quietEnvironment (requestFiles [0x7b]) filteredWords).result = .ok rejectedCode ∧
      (run quietEnvironment (requestFiles [0x7b]) filteredWords).printed = "" ∧
      (run quietEnvironment (requestFiles [0x7b]) filteredWords).files.stat
        (Location.ofText "out.json") = .error .missing := by
  have refused : ∃ cause, readRequest (requestFiles [0x7b]) (Location.ofText "build.json") =
      .error (.invalid cause) := ⟨_, rfl⟩
  obtain ⟨cause, refused⟩ := refused
  have readable : ¬ (requestFiles [0x7b]).Unreadable (Location.ofText "build.json") := by
    simp [← Files.breaksOff_iff, ← readRequest_mishap_iff, refused]
  have stays : ¬ Settings.Escapes (requestFiles [0x7b]) (Location.ofText "settings.json") := by
    simp [Settings.escapes_iff_load?, requestFiles_settings]
  have objectless : (requestFiles [0x7b]).Objectless (Location.ofText "build.json") := by
    refine requestFiles_objectless fun fields object => ?_
    have read := readRequest_ok_iff.mpr
      (Files.document_iff.mpr ⟨_, requestFiles_contains, object⟩)
    rw [refused] at read
    cases read
  have unrendered : Unrendered quietEnvironment (requestFiles [0x7b]) (requestFiles [0x7b])
      filteredInvocation "build.json" (run quietEnvironment (requestFiles [0x7b]) filteredWords) :=
    run_objectless filteredWords_understood rfl rfl rfl objectless
  refine ⟨unrendered.rejected.mpr ⟨stays, readable⟩, unrendered.silent, ?_⟩
  rw [unrendered.unwritten.stat _ (by simp [Files.Apart, journalFiles, journalDirectory,
    filteredInvocation, quietEnvironment])]
  rfl

/-- A request of one octet that starts no character is not rejected, but ends the run in the
mishap of its decoding. -/
theorem run_garbled :
    (requestFiles [0xff]).Objectless (Location.ofText "build.json") ∧
      (run quietEnvironment (requestFiles [0xff]) filteredWords).result =
        .error (.mishap (.encoding ⟨.invalidStart, 0xff, 0, 1⟩)) := by
  have foreign : Files.Unread [0xff] :=
    .textless (.inr (Text.decodeUtf8_fails_iff.mp ⟨_, rfl⟩))
  have asks : Renders quietEnvironment (requestFiles [0xff]) (requestFiles [0xff])
      (requestFiles [0xff]) filteredInvocation "build.json" ["org.osbuild.rpm"]
      (some "out.json") none := ⟨rfl, rfl, requestFiles_settings, rfl⟩
  have failed : rendering quietEnvironment (requestFiles [0xff]) none "build.json"
      ["org.osbuild.rpm"] = .error (.mishap (.encoding ⟨.invalidStart, 0xff, 0, 1⟩)) := rfl
  refine ⟨requestFiles_objectless fun _ => foreign.not_isDocument, ?_⟩
  rw [run, filteredWords_understood]
  exact (asks.perform_failed failed).2.2

end OneFile

end ImageStages.Command
