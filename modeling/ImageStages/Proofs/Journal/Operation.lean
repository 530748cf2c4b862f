import ImageStages.Proofs.Journal.Place

namespace ImageStages

namespace Text

variable {c : Char}

/-- A table whose other rows are about letters beyond ASCII changes those of ASCII by its
first row alone. -/
theorem shifted_ascii {row : CaseShift} {others : List CaseShift} (ascii : c.toNat < 0x80)
    (beyond : ∀ other ∈ others, 0x80 ≤ other.1) :
    shifted (row :: others) (.char c) = shifted [row] (.char c) := by
  have unlisted : shiftedBy? others c.toNat = none := by
    rw [shiftedBy?, Option.map_eq_none_iff, List.find?_eq_none]
    intro other member
    have above := beyond other member
    simp only [Bool.and_eq_true, decide_eq_true_eq]
    omega
  have first : shiftedBy? (row :: others) c.toNat = shiftedBy? [row] c.toNat := by
    rw [shiftedBy?, Option.map_eq_none_iff] at unlisted
    simp only [shiftedBy?, List.find?_cons, List.find?_nil, unlisted]
  rw [shifted, CodePoint.toNat_char, first]
  rfl

theorem titleOf_ascii (ascii : c.toNat < 0x80) : titleOf (.char c) = [.char c.toUpper] := by
  have beyond : (∀ expansion ∈ titleExpansions, 0x80 ≤ expansion.1) ∧
      ∀ other ∈ titleShifts.tail, 0x80 ≤ other.1 := by decide +kernel
  have unexpanded : titleExpansions.find? (·.1 == (CodePoint.char c).toNat) = none := by
    rw [List.find?_eq_none]
    intro expansion member
    have above := beyond.1 expansion member
    simp only [CodePoint.toNat_char, beq_iff_eq]
    omega
  have upper : ∀ code : Fin 0x80, shifted [(0x61, 0x7a, 1, -32)] (.char (Char.ofNat code)) =
      .char (Char.ofNat code).toUpper := by decide +kernel
  have shifts : shifted titleShifts (.char c) = shifted [(0x61, 0x7a, 1, -32)] (.char c) :=
    shifted_ascii ascii beyond.2
  have here := upper ⟨c.toNat, ascii⟩
  rw [Char.ofNat_toNat] at here
  rw [titleOf, unexpanded, shifts, here]

theorem lowerAt_ascii (ascii : c.toNat < 0x80) (before after : Text) :
    lowerAt before (.char c) after = [.char c.toLower] := by
  have plain (other : Char) (above : 0x80 ≤ other.toNat) : CodePoint.char c ≠ .char other := by
    rintro ⟨⟩
    omega
  have beyond : ∀ other ∈ lowerShifts.tail, 0x80 ≤ other.1 := by decide +kernel
  have lower : ∀ code : Fin 0x80, shifted [(0x41, 0x5a, 1, 32)] (.char (Char.ofNat code)) =
      .char (Char.ofNat code).toLower := by decide +kernel
  have shifts : shifted lowerShifts (.char c) = shifted [(0x41, 0x5a, 1, 32)] (.char c) :=
    shifted_ascii ascii beyond
  have here := lower ⟨c.toNat, ascii⟩
  rw [Char.ofNat_toNat] at here
  rw [lowerAt, if_neg (plain 'Σ' (by decide)), if_neg (plain 'İ' (by decide)), shifts, here]

/-- Of the letters of ASCII a title has the first in upper case and the others in lower
case, as core maps them. -/
theorem capitalize_ascii {first : Char} {rest : List Char}
    (ascii : ∀ c ∈ first :: rest, c.toNat < 0x80) :
    capitalize (ofChars (first :: rest)) =
      ofChars (first.toUpper :: rest.map Char.toLower) := by
  have lowered (before : Text) :
      lowerFrom before (ofChars rest) = ofChars (rest.map Char.toLower) := by
    have others : ∀ c ∈ rest, c.toNat < 0x80 := fun c member => ascii c (.tail _ member)
    clear ascii
    induction rest generalizing before with
    | nil => rfl
    | cons c rest ih =>
        rw [ofChars_cons, lowerFrom, lowerAt_ascii (others c (.head _)),
          ih _ fun c member => others c (.tail _ member)]
        rfl
  rw [ofChars_cons, capitalize, titleOf_ascii (ascii first (.head _)), lowered]
  rfl

end Text

namespace Operation

/-- Names that details should leave to the values that an operation or a logger gives. -/
def ownNames : List Text :=
  takenNames.map (Text.ofString ∘ Prod.fst) ++ (["source", "tags"] : List Text)

/-- Details that do not pose as the values that an operation or a logger gives. -/
structure Plain (details : Extra) : Prop where
  distinct : details.Distinct
  apart : ∀ name ∈ ownNames, details.find? name = none

/-- The values that surround what an operation does. -/
def values (name job : Text) (details : Extra) : Extra :=
  ("job_id", .text job) :: ("operation", .text name) :: details

variable {details : Extra}

theorem Plain.values_distinct (plain : Plain details) (name job : Text) :
    (values name job details).Distinct := by
  have unnamed := fun key (member : key ∈ ownNames) =>
    Extra.find?_eq_none_iff.mp (plain.apart key member)
  have job := unnamed "job_id" (by simp [ownNames, takenNames])
  have operation := unnamed "operation" (by simp [ownNames, takenNames])
  exact List.nodup_cons.mpr ⟨by simpa using job, List.nodup_cons.mpr ⟨operation, plain.distinct⟩⟩

theorem Plain.allowed (plain : Plain details) : refusal? details = none := by
  rw [refusal?, Option.map_eq_none_iff, List.find?_eq_none]
  intro taken member
  have absent := plain.apart taken.1 (List.mem_append_left _ (List.mem_map_of_mem member))
  simp [absent]

end Operation

namespace Session

variable {session : Session} {note : Note}

/-- In the record of a note its own values count first, then those of its logger, then the
surrounding ones, and the configured ones last. -/
def Layered (session : Session) (note : Note) : Prop :=
  ∀ key, (session.record note).extra.find? key =
    ((note.own.find? key).or (note.bound.find? key)).or
      ((session.ambient.find? key).or (session.configured.find? key))

theorem layered (surrounding : session.ambient.Distinct) (bound : note.bound.Distinct)
    (own : note.own.Distinct) : session.Layered note := by
  intro key
  rw [record, extraOf, Extra.find?_overlay _ own, Extra.find?_overlay _ bound,
    Extra.find?_overlay _ surrounding, Option.or_assoc]

/-- The record has the marks of an operation's logger. -/
structure Marked (record : Record) (name job : Text) : Prop where
  job : record.extra.find? "job_id" = some (.text job)
  source : record.extra.find? "source" = some (.text name)
  tags : record.extra.find? "tags" = some (.texts [name])

theorem marked_of_layered {name job : Text} (layers : session.Layered note)
    (bound : note.bound = (Logger.operation name job).bound)
    (plain : ∀ key ∈ (["job_id", "source", "tags"] : List Text), note.own.find? key = none) :
    Marked (session.record note) name job where
  job := by
    rw [layers, plain _ (by simp), bound]
    rfl
  source := by
    rw [layers, plain _ (by simp), bound]
    rfl
  tags := by
    rw [layers, plain _ (by simp), bound]
    rfl

theorem operation_distinct (name job : Text) :
    (Logger.operation name job).bound.Distinct := by
  have names : (["source", "job_id", "tags"] : List Text).Nodup := by decide
  exact names

theorem marked_yielded (surrounding : session.ambient.Distinct) (name job : Text)
    (level : Level) (message : Text) :
    Marked (session.record ((Logger.operation name job).note level message)) name job :=
  marked_of_layered (layered surrounding (operation_distinct name job) List.nodup_nil) rfl
    fun _ _ => rfl

/-- What a step writes when it is a note, by the logger of the innermost operation. -/
def noteOf? (logger : Logger) : Step → Option Note
  | .write note => some note
  | .report level message => some (logger.note level message)
  | _ => none

/-- An operation within a session, against its steps without it. -/
structure Bracketed (inner : Session) (logger : Logger) (name : Text)
    (occurrence : Occurrence) (details : Extra) (steps : List Step) : Prop where
  /-- The operation writes a record before those of its steps, and what it writes besides
  comes after them. -/
  entries : (inner.run logger (.operation name occurrence details steps)).entries =
    inner.opening name occurrence.token details ::
      ((inner.inOperation name occurrence.token details steps).entries ++
        (closing? name occurrence
          (inner.inOperation name occurrence.token details steps)).toList)
  /-- It leaves the session as the steps alone would leave it, and ends as they do. -/
  left : (inner.run logger (.operation name occurrence details steps)).session =
    (inner.runAll logger steps).session
  result : (inner.run logger (.operation name occurrence details steps)).result =
    (inner.runAll logger steps).result
  ended : (inner.inOperation name occurrence.token details steps).result =
    (inner.runAll logger steps).result
  restored : (inner.runAll logger steps).session.ambient = inner.ambient
  surrounded : ∀ key,
    (inner.enter name (Operation.job name occurrence.token) details).ambient.find? key =
      ((Operation.values name (Operation.job name occurrence.token) details).find? key).or
        (inner.ambient.find? key)
  /-- In what an operation is called a word of ASCII starts in upper case and goes on in
  lower case. -/
  titled : ∀ first rest, name = Text.ofChars (first :: rest) →
    (∀ c ∈ first :: rest, c.toNat < 0x80) →
      Operation.title name = Text.ofChars (first.toUpper :: rest.map Char.toLower)
  opens : (inner.opening name occurrence.token details).record.level = .info ∧
    (inner.opening name occurrence.token details).record.message =
      Operation.title name ++ " started" ∧
    ∀ detail ∈ details,
      (inner.opening name occurrence.token details).record.extra.find? detail.1 = some detail.2
  completes : ∀ body, body = inner.inOperation name occurrence.token details steps →
    body.result = .ok () → ∃ entry, closing? name occurrence body = some entry ∧
      entry.record.level = .success ∧
      entry.record.message = Operation.title name ++ " completed"
  fails : ∀ body raised, body = inner.inOperation name occurrence.token details steps →
    body.result = .error raised → raised.isException →
      ∃ entry, closing? name occurrence body = some entry ∧
        entry.record.level = .error ∧
        entry.record.message = Operation.title name ++ " failed" ∧
        entry.record.extra.find? "error" = some (.text raised.message) ∧
        entry.record.extra.find? "error_type" = some (.text raised.label)
  /-- What is no exception leaves the operation without a word. -/
  interrupted : ∀ body raised, body = inner.inOperation name occurrence.token details steps →
    body.result = .error raised → ¬ raised.isException → closing? name occurrence body = none
  layers : (inner.enter name (Operation.job name occurrence.token) details).Layered
      (Operation.startNote name (Operation.job name occurrence.token) details) ∧
    ∀ body, body = inner.inOperation name occurrence.token details steps →
      ∀ note ∈ Operation.endNote? name (Operation.job name occurrence.token)
        occurrence.seconds body.result, body.session.Layered note
  marked : Marked (inner.opening name occurrence.token details).record name
      (Operation.job name occurrence.token) ∧
    ∀ entry ∈ closing? name occurrence (inner.inOperation name occurrence.token details steps),
      Marked entry.record name (Operation.job name occurrence.token)
  yields : ∀ first level message rest, steps = first ++ .report level message :: rest →
    (inner.inOperation name occurrence.token details first).result = .ok () →
      ∃ earlier entry following,
        (inner.inOperation name occurrence.token details steps).entries =
          earlier ++ entry :: following ∧
        entry.record.level = level ∧ entry.record.message = message ∧
        Marked entry.record name (Operation.job name occurrence.token)

section Bracketed

variable {inner : Session} {logger : Logger} {name job : Text} {token : String} {seconds : Binary64}
  {details : Extra} {steps : List Step} {result : Except Raised Unit}

theorem inOperation_setAlike (inner : Session) (logger : Logger) (name : Text) (token : String)
    (details : Extra) (steps : List Step) :
    (inner.inOperation name token details steps).session.SetAlike
        (inner.runAll logger steps).session ∧
      (inner.inOperation name token details steps).session.ambient =
        (inner.enter name (Operation.job name token) details).ambient ∧
      (inner.inOperation name token details steps).result = (inner.runAll logger steps).result :=
  runAll_setAlike _ _ steps ⟨rfl, rfl⟩

theorem SetAlike.leave {left right before : Session} (alike : left.SetAlike right)
    (restored : right.ambient = before.ambient) : left.leave before = right := by
  obtain ⟨console, configured, ambient⟩ := right
  obtain ⟨sameConsole, sameConfigured⟩ := alike
  obtain rfl : ambient = before.ambient := restored
  rw [Session.leave, sameConsole, sameConfigured]

theorem entered_distinct (surrounding : inner.ambient.Distinct) (name job : Text)
    (details : Extra) : (inner.enter name job details).ambient.Distinct :=
  surrounding.overlay _

theorem startNote_layered (surrounding : inner.ambient.Distinct)
    (plain : Operation.Plain details) (name job : Text) :
    (inner.enter name job details).Layered (Operation.startNote name job details) :=
  layered (entered_distinct surrounding name job details) (operation_distinct name job)
    plain.distinct

/-- The note at the end of an operation is its logger's, with values of its own that are
none of the logger's. -/
theorem endNote?_some (ends : Operation.endNote? name job seconds result = some note) :
    note.bound = (Logger.operation name job).bound ∧ note.own.Distinct ∧
      ∀ key ∈ (["job_id", "source", "tags"] : List Text), note.own.find? key = none := by
  have names : (["error", "error_type", "duration_seconds"] : List Text).Nodup := by decide
  cases result with
  | ok _ =>
      obtain rfl := Option.some.inj ends
      exact ⟨rfl, List.nodup_singleton _, by simp [Note.withOwn, Extra.find?]⟩
  | error raised =>
      obtain ⟨_, same⟩ := Option.ite_none_right_eq_some.mp ends
      obtain rfl := Option.some.inj same
      exact ⟨rfl, names, by simp [Note.withOwn, Extra.find?]⟩

theorem endNote?_layered {session : Session} (surrounding : session.ambient.Distinct)
    (ends : Operation.endNote? name job seconds result = some note) : session.Layered note := by
  obtain ⟨bound, own, _⟩ := endNote?_some ends
  exact layered surrounding (bound ▸ operation_distinct name job) own

theorem entries_inOperation_report {first : List Step}
    (succeeded : (inner.inOperation name token details first).result = .ok ()) (level : Level)
    (message : Text) (rest : List Step) :
    (inner.inOperation name token details (first ++ .report level message :: rest)).entries =
      (inner.inOperation name token details first).entries ++
        (inner.inOperation name token details first).session.write
            ((Logger.operation name (Operation.job name token)).note level message) ::
          ((inner.inOperation name token details first).session.runAll
            (Logger.operation name (Operation.job name token)) rest).entries := by
  rw [inOperation, runAll_append, Course.andThen_of_ok (by exact succeeded), runAll_cons, run]
  rfl

theorem operation_bracketed (surrounding : inner.ambient.Distinct)
    (plain : Operation.Plain details) (logger : Logger) (name : Text)
    (occurrence : Occurrence) (steps : List Step) :
    Bracketed inner logger name occurrence details steps := by
  obtain ⟨alike, within, ended⟩ :=
    inOperation_setAlike inner logger name occurrence.token details steps
  obtain ⟨_, restored, _⟩ := runAll_setAlike logger logger steps (.refl inner)
  have entered := entered_distinct surrounding name (Operation.job name occurrence.token) details
  have closed :
      (inner.inOperation name occurrence.token details steps).session.ambient.Distinct :=
    within ▸ entered
  have starts := startNote_layered surrounding plain name (Operation.job name occurrence.token)
  have ran : inner.run logger (.operation name occurrence details steps) =
      (inner.wrapUp name occurrence
        (inner.inOperation name occurrence.token details steps)).preceded
        [inner.opening name occurrence.token details] :=
    run_operation plain.allowed
  exact {
    entries := by
      rw [ran]
      rfl
    left := by
      rw [ran]
      exact alike.leave restored
    result := by
      rw [ran]
      exact ended
    ended := ended
    restored := restored
    surrounded := fun key => Extra.find?_overlay _ (plain.values_distinct name _) key
    titled := by
      rintro first rest rfl ascii
      rw [Operation.title, Text.capitalize_ascii ascii]
    opens := by
      refine ⟨rfl, rfl, fun detail member => ?_⟩
      have told := Extra.find?_of_mem plain.distinct member
      rw [opening, write, starts, Operation.startNote, Note.withOwn, told]
      rfl
    completes := by
      rintro body rfl succeeded
      rw [closing?, succeeded]
      exact ⟨_, rfl, rfl, rfl⟩
    fails := by
      rintro body raised rfl failed exceptional
      have ends : Operation.endNote? name (Operation.job name occurrence.token)
          occurrence.seconds (.error raised) = some _ := if_pos exceptional
      have layers := endNote?_layered closed ends
      rw [closing?, failed, ends]
      exact ⟨_, rfl, rfl, rfl, layers "error", layers "error_type"⟩
    interrupted := by
      rintro body raised rfl failed passing
      rw [closing?, failed, Operation.endNote?, if_neg passing]
      rfl
    layers := by
      refine ⟨starts, ?_⟩
      rintro body rfl note ends
      exact endNote?_layered closed ends
    marked := by
      refine ⟨marked_of_layered starts rfl fun key member => ?_, fun entry written => ?_⟩
      · refine plain.apart key ?_
        revert key
        decide
      · obtain ⟨note, ends, rfl⟩ := Option.map_eq_some_iff.mp written
        obtain ⟨bound, _, others⟩ := endNote?_some ends
        exact marked_of_layered (endNote?_layered closed ends) bound others
    yields := by
      rintro first level message rest rfl succeeded
      obtain ⟨_, before, _⟩ :=
        inOperation_setAlike inner logger name occurrence.token details first
      exact ⟨_, _, _, entries_inOperation_report succeeded level message rest, rfl, rfl,
        marked_yielded (before ▸ entered) name _ level message⟩ }

end Bracketed

theorem run_noteOf (inner : Session) {logger : Logger} {step : Step}
    (writes : noteOf? logger step = some note) :
    inner.run logger step = ⟨[inner.write note], inner, .ok ()⟩ := by
  cases step with
  | write note =>
      obtain rfl := Option.some.inj writes
      rw [run]
  | report level message =>
      obtain rfl := Option.some.inj writes
      rw [run]
  | _ => cases writes

/-- Whatever place an operation has among steps and other operations: either something is
raised before it, or its records bracket those of its steps, and what comes later is as it would
be without the operation.  A note is written there with the values that surround it. -/
theorem runAll_bracketed (session : Session) (logger : Logger) (place : Place)
    (surrounding : session.ambient.Distinct) :
    Unreached session logger place ∨
      ∃ (inner : Session) (before : List Entry),
        inner.ambient = place.ambient session.ambient ∧
        (∀ name occurrence details steps, Operation.Plain details →
          Bracketed inner (place.logger logger) name occurrence details steps ∧
          ∃ last : Course,
            session.runAll logger (place.fill [.operation name occurrence details steps]) =
              (last.preceded (inner.run (place.logger logger)
                (.operation name occurrence details steps)).entries).preceded before ∧
            session.runAll logger (place.fill steps) =
              (last.preceded (inner.runAll (place.logger logger) steps).entries).preceded before ∧
            ∀ raised, (inner.runAll (place.logger logger) steps).result = .error raised →
              last.result = .error raised) ∧
        ∀ step note, noteOf? (place.logger logger) step = some note →
          note.bound.Distinct → note.own.Distinct → inner.Layered note ∧
          ∃ last : Course, session.runAll logger (place.fill [step]) =
            (last.preceded [inner.write note]).preceded before := by
  rcases unreached_or_reaches session logger place with
    unreached | ⟨inner, before, later, reaches⟩
  · exact .inl unreached
  have within : inner.ambient.Distinct := reaches.ambient ▸ place.ambient_distinct surrounding
  refine .inr ⟨inner, before, reaches.ambient, ?_, ?_⟩
  · intro name occurrence details steps plain
    have bracketed := operation_bracketed within plain (place.logger logger) name occurrence steps
    refine ⟨bracketed, _, ?_, reaches.course steps, ?_⟩
    · rw [reaches.course, runAll_singleton, bracketed.left, bracketed.result]
    · intro raised failed
      rw [failed]
      exact reaches.raises _ raised
  · intro step note writes bound own
    have wrote := run_noteOf inner writes
    refine ⟨layered within bound own, later inner (.ok ()), ?_⟩
    rw [reaches.course, runAll_singleton, wrote]

/-- Rendering as a part of building, with details of its own. -/
def nestedPlace : Place :=
  .inside [.setUp .normal] "build" ⟨"1", .notANumber⟩ [("request", .text "build.json")]
    (.here [] [.report .info "Built"]) []

/-- A run of an operation that took no time. -/
def secondRun : Occurrence := ⟨"2", .finite false 0 0⟩

/-- Tracing is set up, and then something is raised. -/
def tracedSteps : List Step :=
  [.report .info "Rendering", .setUp .traced, .raise (.exception "ValueError" "boom")]

theorem plain_stages : Operation.Plain [("stages", .int 3)] where
  distinct := by decide
  apart := by decide

/-- The exception leaves both operations, and the outer one is traced as it ends. -/
theorem runAll_bracketed_nested :
    ∃ (inner : Session) (before : List Entry),
      inner.ambient.find? "request" = some (.text "build.json") ∧
      inner.ambient.find? "operation" = some (.text "build") ∧
      Bracketed inner (Logger.operation "build" "build-1") "render" secondRun
        [("stages", .int 3)] tracedSteps ∧
      ∃ last : Course,
        initial.runAll Logger.unbound
            (nestedPlace.fill [.operation "render" secondRun [("stages", .int 3)] tracedSteps]) =
          (last.preceded (inner.run (Logger.operation "build" "build-1")
            (.operation "render" secondRun [("stages", .int 3)] tracedSteps)).entries).preceded
              before ∧
        last.result = .error (.exception "ValueError" "boom") := by
  have distinct : initial.ambient.Distinct := List.nodup_nil
  rcases runAll_bracketed initial Logger.unbound nestedPlace distinct with
    ⟨course, raised, failed, same⟩ | ⟨inner, before, within, operations, _⟩
  · have succeeded : (initial.runAll Logger.unbound (nestedPlace.fill [])).result = .ok () := rfl
    rw [same, failed] at succeeded
    cases succeeded
  · obtain ⟨bracketed, last, filled, _, raises⟩ :=
      operations "render" secondRun [("stages", .int 3)] tracedSteps plain_stages
    refine ⟨inner, before, ?_, ?_, bracketed, last, filled, raises _ rfl⟩
    · rw [within]
      rfl
    · rw [within]
      rfl

/-- An interruption leaves an operation without a record of its end, and an operation with a
detail that the loggers have a parameter for writes no record at all. -/
theorem runAll_unclosed :
    ((initial.runAll Logger.unbound [.setUp .normal, .operation "render" secondRun []
        [.raise (.interruption "KeyboardInterrupt" "")]]).entries.map (·.record.message) =
      (["Render started"] : List Text)) ∧
    (initial.runAll Logger.unbound [.setUp .normal, .operation "render" secondRun
        [("_Logger__self", .int 1)] []]).entries.isEmpty ∧
    (initial.runAll Logger.unbound [.setUp .normal, .operation "render" secondRun
        [("_Logger__self", .int 1)] []]).result = .error (.exception "TypeError"
      "Logger.contextualize() got multiple values for argument '_Logger__self'") :=
  ⟨by decide +kernel, by decide +kernel, rfl⟩

end Session

end ImageStages
