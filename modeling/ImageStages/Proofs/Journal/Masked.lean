import ImageStages.Proofs.Agreement
import ImageStages.Proofs.Journal.Course

namespace ImageStages

/-! Records without what tells one job from another.

The id of a job names what sort of job it is, before a dash, and ends in a token that no
two jobs have in common.  What is left of a record without the token depends on nothing
but what is left of the values that apply to it, so two jobs of one sort that write the
same notes leave the same records. -/

/-- The sort of job that an id tells of: what stands before the first dash. -/
def Document.jobSort : Document → Document
  | .scalar (.text s) => .text (s.takeWhile (· != .char '-'))
  | other => other

/-- The token of a job has no part in its sort. -/
theorem Document.jobSort_append {kind : Text} (dashed : .char '-' ∈ kind) (token : Text) :
    Document.jobSort (.text (kind ++ token)) = Document.jobSort (.text kind) := by
  have shorter : (kind.takeWhile (· != .char '-')).length ≠ kind.length := by
    intro whole
    have all : (kind.takeWhile (· != .char '-')).all (· != .char '-') = true := List.all_takeWhile
    rw [(List.takeWhile_prefix _).eq_of_length whole, List.all_eq_true] at all
    exact absurd (all _ dashed) (by decide)
  simp only [jobSort, Document.text, List.takeWhile_append, if_neg shorter]

namespace Extra

variable {base added : Extra} {name : Text} {value : Document}

def maskedValue (name : Text) (value : Document) : Document :=
  if name = "job_id" then value.jobSort
  else if name = "duration_seconds" then .null
  else value

/-- The values, with the sort of a job in place of its id, and without how long it took. -/
def masked (extra : Extra) : Extra :=
  extra.map fun entry => (entry.1, maskedValue entry.1 entry.2)

theorem masked_put (base : Extra) (name : Text) (value : Document) :
    (base.put name value).masked = base.masked.put name (maskedValue name value) := by
  induction base with
  | nil => rfl
  | cons entry rest ih =>
      obtain ⟨other, old⟩ := entry
      by_cases same : other = name
      · subst other
        simp [put, masked]
      · simpa [put, masked, same] using ih

theorem masked_overlay (base added : Extra) :
    (base.overlay added).masked = base.masked.overlay added.masked := by
  induction added generalizing base with
  | nil => rfl
  | cons entry rest ih =>
      have stored := ih (base.put entry.1 entry.2)
      rwa [masked_put] at stored

theorem find?_masked (extra : Extra) (name : Text) :
    extra.masked.find? name = (extra.find? name).map (maskedValue name) := by
  induction extra with
  | nil => rfl
  | cons entry rest ih =>
      rw [show masked (entry :: rest) = (entry.1, maskedValue entry.1 entry.2) :: masked rest
        from rfl, find?_cons, find?_cons, ih]
      by_cases same : entry.1 = name
      · simp [same]
      · simp [same]

end Extra

namespace Record

variable {record other : Record} {verbosity : Verbosity}

/-- The record with the sort of its job in place of the job. -/
def masked (record : Record) : Record :=
  { record with extra := record.extra.masked }

/-- Who sees a record does not depend on its job. -/
theorem isShown_masked (record : Record) (verbosity : Verbosity) :
    record.masked.isShown verbosity = record.isShown verbosity := by
  have tags : record.masked.extra.find? "tags" = record.extra.find? "tags" := by
    have kept : Extra.maskedValue "tags" = id := rfl
    simp [masked, Extra.find?_masked, kept]
  rw [isShown, isShown, isAllowed, isAllowed, tags]
  rfl

end Record

/-- The notes are the same but for the jobs that they tell of. -/
structure Note.SameSort (left right : Note) : Prop where
  level : left.level = right.level
  message : left.message = right.message
  bound : left.bound.masked = right.bound.masked
  own : left.own.masked = right.own.masked

theorem Note.SameSort.refl (note : Note) : note.SameSort note :=
  ⟨rfl, rfl, rfl, rfl⟩

/-- What was written, with the sorts of jobs in place of the jobs. -/
def maskedRecords (entries : List Entry) : List Record :=
  entries.map (·.record.masked)

@[simp] theorem maskedRecords_nil : maskedRecords [] = [] := rfl

@[simp] theorem maskedRecords_cons (entry : Entry) (rest : List Entry) :
    maskedRecords (entry :: rest) = entry.record.masked :: maskedRecords rest := rfl

@[simp] theorem maskedRecords_append (entries others : List Entry) :
    maskedRecords (entries ++ others) = maskedRecords entries ++ maskedRecords others :=
  List.map_append

namespace Session

/-- The values that apply in the two sessions are the same but for the jobs. -/
structure SameSort (left right : Session) : Prop where
  configured : left.configured.masked = right.configured.masked
  ambient : left.ambient.masked = right.ambient.masked

variable {left right : Session}

namespace SameSort

variable (alike : left.SameSort right)

include alike

theorem record {note other : Note} (same : note.SameSort other) :
    (left.record note).masked = (right.record other).masked := by
  simp only [Session.record, Record.masked, extraOf, Extra.masked_overlay, alike.configured,
    alike.ambient, same.level, same.message, same.bound, same.own]

theorem write {note other : Note} (same : note.SameSort other) :
    (left.write note).record.masked = (right.write other).record.masked :=
  alike.record same

theorem maskedRecords_write (note : Note) :
    maskedRecords [left.write note] = maskedRecords [right.write note] := by
  rw [maskedRecords_cons, maskedRecords_cons, alike.write (.refl note), maskedRecords_nil]

theorem maskedRecords_notes {notes others : List Note}
    (same : List.Forall₂ Note.SameSort notes others) :
    maskedRecords (notes.map left.write) = maskedRecords (others.map right.write) := by
  simp only [maskedRecords, List.map_map]
  rw [← List.forall₂_eq_eq_eq, List.forall₂_map_left_iff, List.forall₂_map_right_iff]
  exact same.imp fun _ _ => alike.record

theorem enter {job other : Text}
    (jobs : Document.jobSort (.text job) = Document.jobSort (.text other)) (name : Text)
    (details : Extra) :
    (left.enter name job details).SameSort (right.enter name other details) := by
  refine ⟨alike.configured, ?_⟩
  simp only [Session.enter, Extra.masked_overlay, alike.ambient]
  simp only [Extra.masked, List.map_cons, Extra.maskedValue, if_true, jobs]

end SameSort

end Session

namespace Operation

/-- Two runs of an operation are jobs of one sort. -/
theorem jobSort_job (name : Text) (token other : String) :
    Document.jobSort (.text (job name token)) = Document.jobSort (.text (job name other)) := by
  have dashed : .char '-' ∈ name ++ "-" := List.mem_append_right _ (List.mem_singleton_self _)
  rw [job, job, Document.jobSort_append dashed, Document.jobSort_append dashed]

variable {job other : Text}
  (jobs : Document.jobSort (.text job) = Document.jobSort (.text other)) (name : Text)

include jobs

theorem masked_bound :
    (Logger.operation name job).bound.masked = (Logger.operation name other).bound.masked := by
  simp [Logger.operation, Extra.masked, Extra.maskedValue, jobs]

theorem startNote_sameSort (details : Extra) :
    (startNote name job details).SameSort (startNote name other details) :=
  ⟨rfl, rfl, masked_bound jobs name, rfl⟩

theorem endNote?_sameSort (seconds others : Binary64) (result : Except Raised Unit) :
    (endNote? name job seconds result = none ∧ endNote? name other others result = none) ∨
      ∃ note same, endNote? name job seconds result = some note ∧
        endNote? name other others result = some same ∧ note.SameSort same := by
  cases result with
  | ok _ => exact .inr ⟨_, _, rfl, rfl, rfl, rfl, masked_bound jobs name, rfl⟩
  | error raised =>
      by_cases exceptional : raised.isException
      · exact .inr ⟨_, _, if_pos exceptional, if_pos exceptional, rfl, rfl,
          masked_bound jobs name, rfl⟩
      · exact .inl ⟨if_neg exceptional, if_neg exceptional⟩

end Operation

namespace Session

variable {left right : Session} {first : Outcome α} {second : Outcome β}
  {related : α → β → Prop}

/-- An operation ends alike in two jobs. -/
theorem SameSort.closing? (alike : left.SameSort right) (entries others : List Entry)
    (result : Except Raised Unit) (name : Text) (occurrence other : Occurrence) :
    maskedRecords (closing? name occurrence ⟨entries, left, result⟩).toList =
      maskedRecords (closing? name other ⟨others, right, result⟩).toList := by
  have jobs := Operation.jobSort_job name occurrence.token other.token
  rcases Operation.endNote?_sameSort jobs name occurrence.seconds other.seconds result with
    ⟨unclosed, also⟩ | ⟨note, same, ends, finish, notes⟩
  · rw [Session.closing?, Session.closing?, unclosed, also]
    rfl
  · rw [Session.closing?, Session.closing?, ends, finish]
    simpa using alike.write notes

/-- An operation over outcomes that agree, in two jobs. -/
theorem SameSort.run_operation (alike : left.SameSort right)
    (agree : Outcome.Agree Note.SameSort related first second) (logger others : Logger)
    (name : Text) (occurrence other : Occurrence) {details : Extra}
    (allowed : Operation.refusal? details = none) :
    maskedRecords
        (left.run logger (.operation name occurrence details (Step.ofOutcome first))).entries =
      maskedRecords
        (right.run others (.operation name other details (Step.ofOutcome second))).entries := by
  have jobs := Operation.jobSort_job name occurrence.token other.token
  have inside := alike.enter jobs name details
  have opened := inside.write (Operation.startNote_sameSort jobs name details)
  have body := inside.maskedRecords_notes agree.notes
  simp only [Session.run_operation allowed, Course.preceded, wrapUp, inOperation,
    runAll_ofOutcome, List.cons_append, List.nil_append, agree.ended, maskedRecords_cons,
    maskedRecords_append, body]
  refine congrArg₂ _ opened (congrArg _ ?_)
  exact inside.closing? _ _ _ name occurrence other

theorem session_run_operation (session : Session) (logger : Logger) (name : Text)
    (occurrence : Occurrence) {details : Extra} (allowed : Operation.refusal? details = none)
    (outcome : Outcome α) :
    (session.run logger (.operation name occurrence details (Step.ofOutcome outcome))).session =
      session := by
  rw [run_operation allowed, inOperation, runAll_ofOutcome]
  rfl

end Session

end ImageStages
