import ImageStages.Proofs.Journal.Course

namespace ImageStages

/-! Operations of the journal, at any place among steps and other operations.

What stands at a place is reached or not whatever it is.  Once reached, it is run by a
session with the values of the operations around the place, and what comes later depends
on how it set up the journal and how it ended, and on nothing else.  So an operation is
bracketed by its records, and leaves no trace in the values of later ones. -/

/-- A place among steps, within the operations that surround it. -/
inductive Place where
  | here (before after : List Step)
  | inside (before : List Step) (name : Text) (occurrence : Occurrence) (details : Extra)
      (place : Place) (after : List Step)

namespace Place

/-- The steps with others at the place. -/
def fill : Place → List Step → List Step
  | .here before after, steps => before ++ (steps ++ after)
  | .inside before name occurrence details place after, steps =>
      before ++ .operation name occurrence details (place.fill steps) :: after

/-- The values that surround the place. -/
def ambient (outer : Extra) : Place → Extra
  | .here _ _ => outer
  | .inside _ name occurrence details place _ =>
      place.ambient (outer.overlay
        (("job_id", .text (Operation.job name occurrence.token)) ::
          ("operation", .text name) :: details))

/-- The logger of the innermost operation around the place. -/
def logger (outer : Logger) : Place → Logger
  | .here _ _ => outer
  | .inside _ name occurrence _ place _ =>
      place.logger (.operation name (Operation.job name occurrence.token))

theorem ambient_distinct {outer : Extra} (distinct : outer.Distinct) (place : Place) :
    (place.ambient outer).Distinct := by
  induction place generalizing outer with
  | here before after => exact distinct
  | inside before name occurrence details place after ih => exact ih (distinct.overlay _)

end Place

namespace Session

variable {session : Session} {logger : Logger} {place : Place}

/-- Something is raised before the steps come to the place. -/
def Unreached (session : Session) (logger : Logger) (place : Place) : Prop :=
  ∃ course raised, course.result = .error raised ∧
    ∀ steps, session.runAll logger (place.fill steps) = course

/-- The place is reached by a session, after some entries. -/
structure Reaches (session : Session) (logger : Logger) (place : Place) (inner : Session)
    (before : List Entry) (later : Session → Except Raised Unit → Course) : Prop where
  ambient : inner.ambient = place.ambient session.ambient
  course : ∀ steps, session.runAll logger (place.fill steps) =
    ((later (inner.runAll (place.logger logger) steps).session
        (inner.runAll (place.logger logger) steps).result).preceded
      (inner.runAll (place.logger logger) steps).entries).preceded before
  raises : ∀ left raised, (later left (.error raised)).result = .error raised

section Inside

variable {name : Text} {occurrence : Occurrence} {details : Extra}

/-- An operation that is not begun does not come to a place within it. -/
theorem unreached_of_refused {raised : Raised}
    (refused : Operation.refusal? details = some raised) (after : List Step) :
    Unreached session logger (.inside [] name occurrence details place after) := by
  refine ⟨⟨[], session, .error raised⟩, raised, rfl, fun steps => ?_⟩
  rw [Place.fill, List.nil_append, runAll_cons, run_operation_refused refused,
    Course.andThen_of_error rfl]

variable (allowed : Operation.refusal? details = none) (after : List Step)

include allowed

/-- Where the operation around a place does not reach it, neither do the steps around the
operation. -/
theorem Unreached.inside
    (unreached : Unreached (session.enter name (Operation.job name occurrence.token) details)
      (Logger.operation name (Operation.job name occurrence.token)) place) :
    Unreached session logger (.inside [] name occurrence details place after) := by
  obtain ⟨body, raised, failed, same⟩ := unreached
  refine ⟨(session.wrapUp name occurrence body).preceded
    [session.opening name occurrence.token details], raised, failed, fun steps => ?_⟩
  rw [Place.fill, List.nil_append, runAll_cons, run_operation allowed, inOperation, same,
    Course.andThen_of_error (by exact failed)]

theorem Reaches.inside {inner : Session} {before : List Entry}
    {later : Session → Except Raised Unit → Course}
    (reaches : Reaches (session.enter name (Operation.job name occurrence.token) details)
      (Logger.operation name (Operation.job name occurrence.token)) place inner before later) :
    Reaches session logger (.inside [] name occurrence details place after) inner
      (session.opening name occurrence.token details :: before)
      (fun left result => (session.wrapUp name occurrence (later left result)).andThen
        fun session => session.runAll logger after) where
  ambient := reaches.ambient
  course steps := by
    rw [Place.fill, List.nil_append, runAll_cons, run_operation allowed, inOperation,
      reaches.course, wrapUp_preceded, wrapUp_preceded, Course.preceded_andThen,
      Course.preceded_andThen, Course.preceded_andThen, Course.preceded_preceded]
    rfl
  raises left raised := by
    have failed : (session.wrapUp name occurrence (later left (.error raised))).result =
        .error raised := reaches.raises left raised
    rw [Course.andThen_of_error failed, failed]

end Inside

section Following

variable {first after : List Step} {name : Text} {occurrence : Occurrence} {details : Extra}

theorem runAll_inside_of_ok (ended : (session.runAll logger first).result = .ok ())
    (steps : List Step) :
    session.runAll logger
        ((Place.inside first name occurrence details place after).fill steps) =
      ((session.runAll logger first).session.runAll logger
        ((Place.inside [] name occurrence details place after).fill steps)).preceded
          (session.runAll logger first).entries := by
  rw [Place.fill, runAll_append, Course.andThen_of_ok ended]
  rfl

theorem Unreached.following (ended : (session.runAll logger first).result = .ok ())
    (unreached : Unreached (session.runAll logger first).session logger
      (.inside [] name occurrence details place after)) :
    Unreached session logger (.inside first name occurrence details place after) := by
  obtain ⟨course, raised, failed, same⟩ := unreached
  refine ⟨course.preceded (session.runAll logger first).entries, raised, failed,
    fun steps => ?_⟩
  rw [runAll_inside_of_ok ended, same]

theorem Reaches.following {inner : Session} {before : List Entry}
    {later : Session → Except Raised Unit → Course}
    (ended : (session.runAll logger first).result = .ok ())
    (reaches : Reaches (session.runAll logger first).session logger
      (.inside [] name occurrence details place after) inner before later) :
    Reaches session logger (.inside first name occurrence details place after) inner
      ((session.runAll logger first).entries ++ before) later where
  ambient := by
    have begun := (runAll_setAlike logger logger first (.refl session)).2.1
    rw [reaches.ambient, Place.ambient, Place.ambient, begun]
  course steps := by
    rw [runAll_inside_of_ok ended, reaches.course, Course.preceded_preceded]
    rfl
  raises := reaches.raises

end Following

theorem unreached_or_reaches (session : Session) (logger : Logger) (place : Place) :
    Unreached session logger place ∨
      ∃ inner before later, Reaches session logger place inner before later := by
  induction place generalizing session logger with
  | here first after =>
      cases ended : (session.runAll logger first).result with
      | error raised =>
          refine .inl ⟨_, raised, ended, fun steps => ?_⟩
          rw [Place.fill, runAll_append, Course.andThen_of_error ended]
      | ok _ =>
          refine .inr ⟨(session.runAll logger first).session,
            (session.runAll logger first).entries,
            fun left result => (Course.mk [] left result).andThen fun session =>
              session.runAll logger after, ?_, fun steps => ?_, fun _ _ => rfl⟩
          · exact (runAll_setAlike logger logger first ⟨rfl, rfl⟩).2.1
          · rw [Place.fill, runAll_append, Course.andThen_of_ok ended, runAll_append,
              Course.andThen_eq_preceded, Place.logger]
  | inside first name occurrence details place after ih =>
      cases ended : (session.runAll logger first).result with
      | error raised =>
          refine .inl ⟨_, raised, ended, fun steps => ?_⟩
          rw [Place.fill, runAll_append, Course.andThen_of_error ended]
      | ok _ =>
          cases refused : Operation.refusal? details with
          | some raised => exact .inl ((unreached_of_refused refused after).following ended)
          | none =>
              rcases ih ((session.runAll logger first).session.enter name
                  (Operation.job name occurrence.token) details)
                (Logger.operation name (Operation.job name occurrence.token)) with
                unreached | ⟨inner, earlier, later, reaches⟩
              · exact .inl ((unreached.inside refused after).following ended)
              · exact .inr ⟨inner, _, _, (reaches.inside refused after).following ended⟩

end Session

end ImageStages
