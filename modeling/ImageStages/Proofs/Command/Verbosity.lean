import ImageStages.Proofs.Catalog.Dumps
import ImageStages.Proofs.Command.Flags
import ImageStages.Proofs.Command.Jobs

namespace ImageStages.Command

/-! Runs at each verbosity.

Who asks to see more of a run sees more, and changes nothing else: what is printed, what is
written and how the run ends are the same, and so are the entries of the journal.  Dumps of
options are seen by who traces, and by nobody in the files of the journal. -/

open Text (Location)

variable {environment other : Environment} {files : Files} {words : List String}
  {invocation : Invocation} {verbosity : Verbosity} {session : Session}

/-- What a task writes its result to, if that is asked for. -/
def Task.output? : Task → Option String
  | .list => none
  | .render _ _ output => output

def Task.request? : Task → Option String
  | .list => none
  | .render request _ _ => some request

/-- How a command line begins.  Without a journal to open nothing is done. -/
def openingOf (environment : Environment) (files : Files) (words : List String) : Opening :=
  match Invocation.ofWords words with
  | .error _ => ⟨none, files, none⟩
  | .ok invocation =>
      match openJournal (journalDirectory environment invocation) files with
      | .error _ => ⟨none, files, none⟩
      | .ok opened =>
          ⟨journalDirectory environment invocation, opened,
            invocation.task.output?.map Location.ofText⟩

/-- What a task reads is no file of the journal. -/
def Opening.ReadsApart (opening : Opening) (task : Task) : Prop :=
  ∀ request, task.request? = some request →
    opening.files.Apart (journalFiles opening.journal) (Location.ofText request)

/-- The request that a command line asks to render is no file of its journal. -/
def ReadsApart (environment : Environment) (files : Files) (words : List String) : Prop :=
  ∀ invocation, Invocation.ofWords words = .ok invocation →
    (openingOf environment files words).ReadsApart invocation.task

/-- A command line that asks for a verbosity beside what it asks for itself. -/
def asking (verbosity : Verbosity) (words : List String) : List String :=
  match verbosity with
  | .normal => words
  | .detailed => "-d" :: words
  | .traced => "--trace" :: words

namespace Invocation

def asking (invocation : Invocation) (verbosity : Verbosity) : Invocation :=
  match verbosity with
  | .normal => invocation
  | .detailed => invocation.flagged .debug
  | .traced => invocation.flagged .trace

/-- What is shown of a run. -/
def shows (invocation : Invocation) : Verbosity :=
  .ofFlags invocation.debug invocation.trace

theorem shows_asking (invocation : Invocation) (verbosity : Verbosity) :
    (invocation.asking verbosity).shows =
      .ofFlags (verbosity == .detailed || invocation.debug)
        (verbosity == .traced || invocation.trace) := by
  cases verbosity <;> rfl

theorem shows_asking_atMost {low high : Verbosity} (wider : low.AtMost high)
    (invocation : Invocation) :
    (invocation.asking low).shows.AtMost (invocation.asking high).shows := by
  rw [shows_asking, shows_asking]
  generalize invocation.debug = debug, invocation.trace = trace
  revert wider
  cases low <;> cases high <;> cases debug <;> cases trace <;> decide

theorem shows_asking_eq_traced_iff :
    (invocation.asking verbosity).shows = .traced ↔
      verbosity = .traced ∨ invocation.trace = true := by
  simp [shows_asking, Verbosity.ofFlags_eq_traced_iff]

/-- A flag changes nothing else that is understood. -/
theorem ofWords_asking (verbosity : Verbosity) (words : List String) :
    ofWords (Command.asking verbosity words) = (ofWords words).map (·.asking verbosity) := by
  cases verbosity with
  | normal =>
      rw [Command.asking]
      cases ofWords words <;> rfl
  | detailed =>
      have flags : Page.main.grammar.Flags "-d" ⟨.debug, ["-d", "--debug"], false⟩ false :=
        ⟨rfl, rfl, by decide⟩
      exact ofWords_cons flags (by decide) words
  | traced =>
      have flags : Page.main.grammar.Flags "--trace" ⟨.trace, ["--trace"], false⟩ true :=
        ⟨rfl, rfl, by decide⟩
      exact ofWords_cons flags (by decide) words

variable (invocation : Invocation) (verbosity : Verbosity)

@[simp] theorem logDirectory_asking :
    (invocation.asking verbosity).logDirectory = invocation.logDirectory := by
  cases verbosity <;> rfl

@[simp] theorem settings_asking :
    (invocation.asking verbosity).settings = invocation.settings := by
  cases verbosity <;> rfl

@[simp] theorem task_asking : (invocation.asking verbosity).task = invocation.task := by
  cases verbosity <;> rfl

end Invocation

theorem journalDirectory_asking (environments : environment.SameSort other) :
    journalDirectory other (invocation.asking verbosity) =
      journalDirectory environment invocation := by
  simp only [journalDirectory, Invocation.logDirectory_asking, environments.logDirectory]

theorem openingOf_sameSort (environments : environment.SameSort other) (files : Files)
    (words : List String) : openingOf environment files words = openingOf other files words := by
  simp only [openingOf, journalDirectory, environments.logDirectory]

section SameSort

variable {left right : Environment}

theorem setUp_sameSort (low high : Verbosity) :
    (Session.initial.setUp low).SameSort (Session.initial.setUp high) := ⟨rfl, rfl⟩

variable (environments : left.SameSort right) (low high : Verbosity)

include environments

theorem performTask_sameSort (opening : Opening)
    (here : Opened opening.journal opening.files) {task : Task}
    (outputs : opening.output = task.output?.map Location.ofText)
    (apart : opening.ReadsApart task) (settings : Settings) :
    Report.SameSort opening
      (performTask left settings (Session.initial.setUp low) opening.files opening.journal task)
      (performTask right settings (Session.initial.setUp high) opening.files opening.journal
        task) := by
  cases task with
  | list => exact .untouched opening here _ _ _
  | render request types output =>
      exact performRender_sameSort environments (setUp_sameSort low high) here settings types
        outputs (apart request rfl)

theorem perform_sameSort {opened : Files}
    (opens : openJournal (journalDirectory left invocation) files = .ok opened)
    (apart : Opening.ReadsApart ⟨journalDirectory left invocation, opened,
      invocation.task.output?.map Location.ofText⟩ invocation.task) :
    Report.SameSort
      ⟨journalDirectory left invocation, opened, invocation.task.output?.map Location.ofText⟩
      (perform left files (invocation.asking low))
      (perform right files (invocation.asking high)) := by
  have here := opened_of_openJournal opens
  simp only [perform, journalDirectory_asking environments,
    journalDirectory_asking (Environment.SameSort.refl left), Invocation.settings_asking,
    Invocation.task_asking, ← environments.settingsPath, opens]
  cases Settings.load? opened (Location.ofText (invocation.settings.getD left.settingsPath)) with
  | error mishap => exact .untouched ⟨_, _, _⟩ here _ _ _
  | ok stored =>
      cases stored with
      | none => exact performTask_sameSort environments _ _ ⟨_, _, _⟩ here rfl apart _
      | some settings =>
          exact (performTask_sameSort environments _ _ ⟨_, _, _⟩ here rfl apart _).after
            ((setUp_sameSort _ _).maskedRecords_write _)

/-- Whatever a command line asks for, what it asks to see makes no difference, nor do the jobs
that it runs. -/
theorem run_sameSort {files : Files} {words : List String}
    (apart : ReadsApart left files words) :
    Report.SameSort (openingOf left files words) (run left files (asking low words))
      (run right files (asking high words)) := by
  simp only [ReadsApart, openingOf] at apart
  simp only [run, openingOf, Invocation.ofWords_asking]
  cases understood : Invocation.ofWords words with
  | error reason =>
      have here : Opened none files := by simp [Opened, journalFiles]
      cases reason with
      | help page =>
          simp only [Except.map, ← environments.settingsPath]
          exact .untouched ⟨_, _, _⟩ here _ _ _
      | misuse page fault => exact .untouched ⟨_, _, _⟩ here _ _ _
  | ok invocation =>
      have apart := apart invocation understood
      simp only [understood] at apart
      simp only [Except.map]
      cases opens : openJournal (journalDirectory left invocation) files with
      | ok opened =>
          simp only [opens] at apart
          exact perform_sameSort environments low high opens apart
      | error mishap =>
          have here : Opened none files := by simp [Opened, journalFiles]
          simp only [perform, journalDirectory_asking environments,
            journalDirectory_asking (Environment.SameSort.refl left), opens]
          exact .untouched ⟨_, _, _⟩ here _ _ _

end SameSort

section Proper

variable {directory : Option Location}

theorem systemNote_proper (shows : session.console = some verbosity) (level : Level)
    (message : Text) : (session.write (systemNote level message)).Proper verbosity :=
  ⟨session, _, shows, Note.undumped_ofSource _ (by decide) _ _, rfl⟩

theorem conclude_proper (shows : session.console = some verbosity) (output : Option String)
    (rendered : Except Failure (List Stage)) :
    ∀ entry ∈ (conclude session files directory output rendered).entries,
      entry.Proper verbosity := by
  cases rendered with
  | ok stages =>
      cases output with
      | none => simp [conclude_printed]
      | some path =>
          have written : (session.write
              (writtenNote stages.length (Location.ofText path))).Proper verbosity :=
            systemNote_proper shows _ _
          simp only [conclude, deliver, Option.map_some]
          split
          · simp
          · split <;> simpa using written
  | error failure =>
      have written := systemNote_proper shows
      cases failure <;> simp only [conclude, reject, rejection?]
      case invalid => split <;> simpa using written _ _
      case invariant => split <;> simpa using written _ _
      all_goals simp

theorem renderFile_undumped (surroundings : Surroundings) (files : Files) (location : Location)
    (types : List Text) :
    ∀ note ∈ (renderFile surroundings files location types).notes, note.Undumped := by
  have writes : Outcome.Writes Note.Undumped (renderFile surroundings files location types) :=
    .bind (.of_silent rfl) fun document => .bind (.of_silent rfl) fun request =>
      Catalog.undumped_renderBatch _ _ _
  exact writes

theorem renderStep_proper (shows : session.console = some verbosity)
    (environment : Environment) (surroundings : Surroundings) (files : Files)
    (location : Location) (types : List Text) :
    ∀ entry ∈ (session.run Logger.unbound (renderStep environment location
      (renderFile surroundings files location types))).entries, entry.Proper verbosity := by
  have names : (["request"] : List Text).Nodup := by decide
  exact Session.run_operation_proper shows (by decide) (renderDetails_allowed location) names rfl
    (renderFile_undumped _ _ _ _)

theorem performRender_proper (shows : session.console = some verbosity) (settings : Settings)
    (request : String) (types : List String) (output : Option String) :
    ∀ entry ∈ (performRender environment settings session files directory request types
      output).entries, entry.Proper verbosity := by
  have proper (files : Files) := renderStep_proper shows environment
    ⟨settings, environment.salt, environment.batchToken⟩ files (Location.ofText request)
    (types.map Text.ofString)
  cases begun : keep directory files
      [renderOpening environment session (Location.ofText request)] with
  | error mishap =>
      obtain ⟨rest, entries⟩ := entries_renderStep environment session (Location.ofText request)
        (renderFile ⟨settings, environment.salt, environment.batchToken⟩ files
          (Location.ofText request) (types.map Text.ofString))
      have first := proper files
      rw [entries] at first
      simpa only [performRender, begun, List.forall_mem_singleton] using
        first _ List.mem_cons_self
  | ok started =>
      cases kept : keep directory started (session.run Logger.unbound
          (renderStep environment (Location.ofText request)
            (renderFile ⟨settings, environment.salt, environment.batchToken⟩ started
              (Location.ofText request) (types.map Text.ofString)))).entries.tail with
      | error mishap => simpa only [performRender, begun, kept] using proper started
      | ok after =>
          rw [performRender_of_keep begun rfl rfl kept, session_renderStep]
          exact List.forall_mem_append.mpr ⟨proper started, conclude_proper shows output _⟩

/-- A dump in the journal of a run is of the lowest level, and who is shown it traces. -/
theorem perform_proper (environment : Environment) (files : Files) (invocation : Invocation) :
    ∀ entry ∈ (perform environment files invocation).entries,
      entry.Proper invocation.shows := by
  have task (settings : Settings) (opened : Files) : ∀ entry ∈
      (performTask environment settings
        (Session.initial.setUp (Verbosity.ofFlags invocation.debug invocation.trace)) opened
        (journalDirectory environment invocation) invocation.task).entries,
      entry.Proper invocation.shows := by
    cases invocation.task with
    | list => simp [performTask]
    | render request types output => exact performRender_proper rfl settings request types output
  simp only [perform]
  split
  · simp
  · rename_i opened _
    split
    · simp
    · exact task _ opened
    · exact List.forall_mem_cons.mpr ⟨systemNote_proper rfl _ _, task _ opened⟩

end Proper

/-- What tells the jobs of one run from those of others. -/
structure Tokens where
  operation : Occurrence
  batch : String

/-- A run at a verbosity, beside what the command line asks for itself. -/
def runAsking (environment : Environment) (tokens : Tokens) (files : Files)
    (verbosity : Verbosity) (words : List String) : Report :=
  run { environment with operation := tokens.operation, batchToken := tokens.batch } files
    (asking verbosity words)

/-- A command line that asks for tracing by itself. -/
def Traces (words : List String) : Prop :=
  ∃ invocation, Invocation.ofWords words = .ok invocation ∧ invocation.trace = true

/-- Either the command line is not understood, and nothing is written, or all that is written
is proper. -/
theorem runAsking_proper (environment : Environment) (files : Files) (words : List String) :
    (∀ tokens verbosity, (runAsking environment tokens files verbosity words).entries = []) ∨
      ∃ invocation, Invocation.ofWords words = .ok invocation ∧
        ∀ tokens verbosity,
          ∀ entry ∈ (runAsking environment tokens files verbosity words).entries,
            entry.Proper (invocation.asking verbosity).shows := by
  simp only [runAsking, run, Invocation.ofWords_asking]
  cases Invocation.ofWords words with
  | error reason => cases reason <;> exact .inl fun _ _ => rfl
  | ok invocation => exact .inr ⟨invocation, rfl, fun _ _ => perform_proper _ _ _⟩

theorem readsApart_sameSort {left right : Environment} (environments : left.SameSort right)
    (apart : ReadsApart left files words) : ReadsApart right files words := by
  rwa [ReadsApart, ← openingOf_sameSort environments]

theorem runAsking_sameSort (apart : ReadsApart environment files words) (first second : Tokens)
    (low high : Verbosity) :
    Report.SameSort (openingOf environment files words)
      (runAsking environment first files low words)
      (runAsking environment second files high words) := by
  have alike (tokens : Tokens) : environment.SameSort
      { environment with operation := tokens.operation, batchToken := tokens.batch } :=
    ⟨rfl, rfl, rfl⟩
  rw [openingOf_sameSort (alike first)]
  exact run_sameSort ((alike first).symm.trans (alike second)) low high
    (readsApart_sameSort (alike first) apart)

/-- What is asked to be shown of a run makes no difference to it, and decides what is seen. -/
structure Discreet (environment : Environment) (files : Files) (words : List String) : Prop where
  /-- Nothing but the jobs differs between two runs, whatever they show. -/
  same : ∀ (first second : Tokens) (low high : Verbosity),
    Report.SameSort (openingOf environment files words)
      (runAsking environment first files low words) (runAsking environment second files high words)
  /-- In particular a file that is none of the journal's, as the one of the result, is left
  the same. -/
  elsewhere : ∀ (first second : Tokens) (low high : Verbosity) (location : Location),
    (runAsking environment first files low words).files.Apart
        (journalFiles (openingOf environment files words).journal) location →
      (runAsking environment first files low words).files.stat location =
        (runAsking environment second files high words).files.stat location
  /-- Of the records that a run writes, who asks for more sees no fewer. -/
  shown : ∀ (first second : Tokens) (low high : Verbosity), low.AtMost high →
    ((shown (runAsking environment first files low words).entries).map Record.masked).Sublist
      ((shown (runAsking environment second files high words).entries).map Record.masked)

/-- A dump is of the lowest level, is kept in no file, and is shown to who traces only. -/
def DumpsHidden (environment : Environment) (files : Files) (words : List String) : Prop :=
  ∀ (tokens : Tokens) (verbosity : Verbosity),
    ∀ entry ∈ (runAsking environment tokens files verbosity words).entries,
      entry.record.IsDump → entry.record.level = .trace ∧ entry.record.isKept = false ∧
        (entry.onConsole = true → verbosity = .traced ∨ Traces words)

theorem discreet_of_readsApart (apart : ReadsApart environment files words) :
    Discreet environment files words where
  same := runAsking_sameSort apart
  elsewhere first second low high location elsewhere :=
    (runAsking_sameSort apart first second low high).abreast.files.stat elsewhere
  shown first second low high wider := by
    have same := (runAsking_sameSort apart first second low high).abreast.records
    rcases runAsking_proper environment files words with none | ⟨invocation, _, proper⟩
    · rw [none, none]
    · -- The same entries in both runs, through a filter that lets no fewer pass.
      exact shown_sublist same (fun entry member => (proper first low entry member).shownBy)
        (fun entry member => (proper second high entry member).shownBy)
        (invocation.shows_asking_atMost wider)

theorem dumpsHidden (environment : Environment) (files : Files) (words : List String) :
    DumpsHidden environment files words := by
  intro tokens verbosity entry member dump
  rcases runAsking_proper environment files words with none | ⟨invocation, understood, proper⟩
  · rw [none] at member
    cases member
  · have written := proper tokens verbosity entry member
    have level := written.level dump
    refine ⟨level, Record.not_isKept_of_trace level, fun onConsole => ?_⟩
    rw [written.shownBy] at onConsole
    have traced := Invocation.shows_asking_eq_traced_iff.mp (dump.shown onConsole).2
    exact traced.imp_right fun trace => ⟨invocation, understood, trace⟩

/-- Verbosity does not interfere with a run, and shows more and more of it, unless the run
reads its request from its own journal.  Dumps are hidden in any run. -/
theorem run_discreet (environment : Environment) (files : Files) (words : List String) :
    (ReadsApart environment files words → Discreet environment files words) ∧
      DumpsHidden environment files words :=
  ⟨discreet_of_readsApart, dumpsHidden environment files words⟩

/-- A request beside a journal. -/
theorem run_discreet_logged :
    ReadsApart loggingEnvironment strangeFiles ["render", "build.json"] ∧
      Discreet loggingEnvironment strangeFiles ["render", "build.json"] := by
  have understood : Invocation.ofWords ["render", "build.json"] = .ok (strangeInvocation none) :=
    Except.eq_ok_of_toOption (by decide +kernel)
  have opening : openingOf loggingEnvironment strangeFiles ["render", "build.json"] =
      ⟨some (Location.ofText "logs"), loggedFiles, none⟩ := by
    have directory : journalDirectory loggingEnvironment (strangeInvocation none) =
      some (Location.ofText "logs") := rfl
    simp only [openingOf, understood, directory, loggedFiles_opened]
    rfl
  have resolved : loggedFiles.resolve (Location.ofText "build.json") = .ok ["build.json"] :=
    Except.eq_ok_of_toOption (by decide +kernel)
  have apart : ReadsApart loggingEnvironment strangeFiles ["render", "build.json"] := by
    intro invocation read
    obtain rfl := Except.ok.inj (understood.symm.trans read)
    rw [opening]
    rintro request ⟨⟩
    exact loggedFiles_apart resolved (by decide) (by decide)
  exact ⟨apart, (run_discreet _ _ _).1 apart⟩

/-- Who asks for details sees that a stage was rendered, and who traces sees its options. -/
example : [Verbosity.normal, .detailed, .traced].map (fun verbosity =>
    (shown (runAsking loggingEnvironment ⟨loggingEnvironment.operation, "batch"⟩ strangeFiles
      verbosity ["render", "build.json"]).entries).map (·.level)) =
    [[.info, .success], [.info, .debug, .success], [.info, .debug, .trace, .success]] := by
  decide +kernel

end ImageStages.Command
