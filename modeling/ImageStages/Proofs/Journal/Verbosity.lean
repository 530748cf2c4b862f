import Mathlib.Data.List.Basic
import ImageStages.Proofs.Journal.Masked

namespace ImageStages

/-! What the console shows at each verbosity.

A higher verbosity shows all that a lower one does.  The filter for records that write out
whole options works against that order: it lets such a record pass only if its level is low
enough, and then only who traces sees it.  Every logger tags what it writes, so what
surrounds a note does not make it such a record. -/

namespace Verbosity

/-- The other verbosity shows the records of all levels that this one shows. -/
def AtMost (low high : Verbosity) : Prop :=
  high.threshold.rank ≤ low.threshold.rank

instance (low high : Verbosity) : Decidable (low.AtMost high) :=
  inferInstanceAs (Decidable (high.threshold.rank ≤ low.threshold.rank))

theorem ofFlags_eq_traced_iff {debug trace : Bool} :
    ofFlags debug trace = .traced ↔ trace = true := by
  cases debug <;> cases trace <;> decide

end Verbosity

namespace Record

variable {record : Record} {verbosity low high : Verbosity}

/-- The record is tagged for writing out whole options. -/
def IsDump (record : Record) : Prop :=
  ((record.extra.find? "tags").getD (.list [])).holdsWord dumpTag = .ok true

theorem isShown_mono (wider : low.AtMost high) (shown : record.isShown low = true) :
    record.isShown high = true := by
  rw [isShown, Bool.and_eq_true, decide_eq_true_eq] at shown ⊢
  exact ⟨Nat.le_trans wider shown.1, shown.2⟩

theorem isAllowed_of_isDump (dump : record.IsDump) :
    record.isAllowed = decide (record.level.rank ≤ Level.trace.rank) := by
  rw [IsDump] at dump
  simp [isAllowed, tagsAllow, dump]

/-- A dump that is shown is of the lowest level, and only tracing shows that. -/
theorem IsDump.shown (dump : record.IsDump) (shown : record.isShown verbosity = true) :
    record.level = .trace ∧ verbosity = .traced := by
  rw [isShown, isAllowed_of_isDump dump, Bool.and_eq_true, decide_eq_true_eq,
    decide_eq_true_eq] at shown
  obtain ⟨reached, low⟩ := shown
  have level : record.level = .trace := by
    generalize record.level = level at low
    cases level <;> first | rfl | exact absurd low (by decide)
  rw [level] at reached
  refine ⟨level, ?_⟩
  cases verbosity <;> first | rfl | exact absurd reached (by decide)

/-- Records of the lowest level are not kept in files. -/
theorem not_isKept_of_trace (level : record.level = .trace) : record.isKept = false := by
  rw [isKept, level]
  decide

end Record

/-- The entry is on the console if its record is shown at the verbosity. -/
def Entry.ShownBy (verbosity : Verbosity) (entry : Entry) : Prop :=
  entry.onConsole = entry.record.isShown verbosity

/-- The records on the console. -/
def shown (entries : List Entry) : List Record :=
  (entries.filter (·.onConsole)).map (·.record)

section Shown

variable {entries others : List Entry} {low high verbosity : Verbosity}

theorem masked_shown (each : ∀ entry ∈ entries, entry.ShownBy verbosity) :
    (shown entries).map Record.masked =
      (maskedRecords entries).filter (·.isShown verbosity) := by
  have same : entries.filter (·.onConsole) =
      entries.filter fun entry => entry.record.masked.isShown verbosity :=
    List.filter_congr fun entry member => by rw [each entry member, Record.isShown_masked]
  rw [shown, same, maskedRecords, List.filter_map, List.map_map]
  rfl

/-- Of the same records a higher verbosity shows no fewer, in the same order. -/
theorem shown_sublist (same : maskedRecords entries = maskedRecords others)
    (narrow : ∀ entry ∈ entries, entry.ShownBy low)
    (wide : ∀ entry ∈ others, entry.ShownBy high) (wider : low.AtMost high) :
    ((shown entries).map Record.masked).Sublist ((shown others).map Record.masked) := by
  rw [masked_shown narrow, masked_shown wide, same]
  exact List.monotone_filter_right _ fun record => Record.isShown_mono wider

end Shown

theorem Document.holdsWord_texts (tags : List Text) (word : Text) :
    (Document.texts tags).holdsWord word = .ok (tags.any (word == ·)) := by
  simp only [texts, holdsWord, List.any_map]
  rfl

namespace Note

/-- If the record of the note is a dump, the note is of the lowest level. -/
def Undumped (note : Note) : Prop :=
  ∀ session : Session, (session.record note).IsDump → note.level = .trace

/-- A note is no dump if its logger has other tags, and the note has none. -/
theorem undumped_of_tags {note : Note} {tags : List Text} (bound : note.bound.Distinct)
    (own : note.own.Distinct) (untagged : note.own.find? "tags" = none)
    (tagged : note.bound.find? "tags" = some (.texts tags))
    (absent : Text.ofString dumpTag ∉ tags) : note.Undumped := by
  intro session dump
  have found : (session.record note).extra.find? "tags" = some (.texts tags) := by
    rw [Session.record, Session.extraOf, Extra.find?_overlay _ own, Extra.find?_overlay _ bound,
      untagged, tagged]
    rfl
  rw [Record.IsDump, found, Option.getD_some, Document.holdsWord_texts, Except.ok.injEq,
    List.any_eq_true] at dump
  obtain ⟨tag, member, same⟩ := dump
  exact absurd (eq_of_beq same ▸ member) absent

theorem undumped_ofSource (source : Text) {tags : List Text} (absent : Text.ofString dumpTag ∉ tags)
    (level : Level) (message : Text) :
    ((Logger.ofSource source tags).note level message).Undumped := by
  have names : (["tags", "source"] : List Text).Nodup := by decide
  exact undumped_of_tags names List.nodup_nil rfl rfl absent

end Note

namespace Operation

variable {name job : Text} (other : name ≠ dumpTag)

include other

theorem undumped_startNote {details : Extra} (distinct : details.Distinct)
    (untagged : details.find? "tags" = none) : (startNote name job details).Undumped := by
  have names : (["source", "job_id", "tags"] : List Text).Nodup := by decide
  exact Note.undumped_of_tags names distinct untagged rfl
    (fun member => other (List.mem_singleton.mp member).symm)

theorem undumped_endNote? {note : Note} {seconds : Binary64} {result : Except Raised Unit}
    (ends : endNote? name job seconds result = some note) : note.Undumped := by
  have names : (["source", "job_id", "tags"] : List Text).Nodup := by decide
  have owned : (["error", "error_type", "duration_seconds"] : List Text).Nodup := by decide
  have absent : Text.ofString dumpTag ∉ [name] := fun member =>
    other (List.mem_singleton.mp member).symm
  cases result with
  | ok _ =>
      obtain rfl := Option.some.inj ends
      exact Note.undumped_of_tags names (List.nodup_singleton _) rfl rfl absent
  | error raised =>
      obtain ⟨_, same⟩ := Option.ite_none_right_eq_some.mp ends
      obtain rfl := Option.some.inj same
      exact Note.undumped_of_tags names owned rfl rfl absent

end Operation

/-- The entry was written at the verbosity, by a note that is no dump above the lowest
level. -/
def Entry.Proper (verbosity : Verbosity) (entry : Entry) : Prop :=
  ∃ (session : Session) (note : Note), session.console = some verbosity ∧ note.Undumped ∧
    entry = session.write note

namespace Entry.Proper

variable {verbosity : Verbosity} {entry : Entry} (proper : entry.Proper verbosity)

include proper

theorem shownBy : entry.ShownBy verbosity := by
  obtain ⟨session, note, shows, _, rfl⟩ := proper
  rw [ShownBy, Session.write, shows]
  rfl

theorem level (dump : entry.record.IsDump) : entry.record.level = .trace := by
  obtain ⟨session, note, _, undumped, rfl⟩ := proper
  exact undumped session dump

end Entry.Proper

namespace Session

/-- An operation over an outcome writes its own records and those of the outcome's notes. -/
theorem run_operation_proper {session : Session} {logger : Logger} {verbosity : Verbosity}
    {name : Text} {occurrence : Occurrence} {details : Extra} {outcome : Outcome α}
    (shows : session.console = some verbosity) (other : name ≠ dumpTag)
    (allowed : Operation.refusal? details = none) (distinct : details.Distinct)
    (untagged : details.find? "tags" = none)
    (undumped : ∀ note ∈ outcome.notes, note.Undumped) :
    ∀ entry ∈ (session.run logger
      (.operation name occurrence details (Step.ofOutcome outcome))).entries,
      entry.Proper verbosity := by
  have inside : (session.enter name (Operation.job name occurrence.token) details).console =
    some verbosity := shows
  simp only [run_operation allowed, Course.preceded, wrapUp, inOperation, runAll_ofOutcome,
    List.cons_append, List.nil_append, List.forall_mem_cons, List.forall_mem_append,
    List.forall_mem_map, Option.mem_toList]
  refine ⟨⟨_, _, inside, Operation.undumped_startNote other distinct untagged, rfl⟩,
    fun note member => ⟨_, note, inside, undumped note member, rfl⟩, fun entry written => ?_⟩
  obtain ⟨note, ends, rfl⟩ := Option.map_eq_some_iff.mp written
  exact ⟨_, note, inside, Operation.undumped_endNote? other ends, rfl⟩

end Session

end ImageStages
