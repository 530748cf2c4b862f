import ImageStages.Journal.Session
import Mathlib.Data.List.Nodup

namespace ImageStages

namespace Extra

variable {base added : Extra} {name other : Text} {value : Document}

/-- No name occurs twice. -/
def Distinct (extra : Extra) : Prop :=
  (extra.map Prod.fst).Nodup

instance (extra : Extra) : Decidable extra.Distinct :=
  inferInstanceAs (Decidable (extra.map Prod.fst).Nodup)

theorem find?_cons (entry : Text × Document) (rest : Extra) (name : Text) :
    Extra.find? (entry :: rest) name =
      if entry.1 = name then some entry.2 else Extra.find? rest name := by
  by_cases same : entry.1 = name <;> simp [find?, same]

theorem find?_put (base : Extra) (name other : Text) (value : Document) :
    (base.put name value).find? other =
      if name = other then some value else base.find? other := by
  induction base with
  | nil => simp [put, find?_cons]
  | cons entry rest ih =>
      obtain ⟨first, old⟩ := entry
      by_cases same : first = name
      · subst first
        by_cases wanted : name = other <;> simp [put, find?_cons, wanted]
      · rw [put, if_neg (by simpa using same), find?_cons, find?_cons, ih]
        by_cases wanted : first = other
        · have apart : name ≠ other := fun alike => same (wanted.trans alike.symm)
          rw [if_pos wanted, if_neg apart, if_pos wanted]
        · rw [if_neg wanted, if_neg wanted]

theorem find?_eq_none_iff : added.find? name = none ↔ name ∉ added.map Prod.fst := by
  rw [find?, Option.map_eq_none_iff, List.find?_eq_none, List.mem_map]
  constructor
  · rintro absent ⟨entry, member, rfl⟩
    exact absent entry member (beq_self_eq_true _)
  · intro absent entry member same
    exact absent ⟨entry, member, eq_of_beq same⟩

theorem find?_of_mem (distinct : added.Distinct) (member : (name, value) ∈ added) :
    added.find? name = some value := by
  induction added with
  | nil => cases member
  | cons entry rest ih =>
      obtain ⟨absent, others⟩ := List.nodup_cons.mp distinct
      rw [find?_cons]
      rcases List.mem_cons.mp member with same | later
      · rw [← same, if_pos rfl]
      · have apart : entry.1 ≠ name := by
          intro same
          exact absent (List.mem_map.mpr ⟨_, later, same.symm⟩)
        rw [if_neg apart, ih others later]

theorem names_put (base : Extra) (name : Text) (value : Document) :
    (base.put name value).map Prod.fst =
      if name ∈ base.map Prod.fst then base.map Prod.fst else base.map Prod.fst ++ [name] := by
  induction base with
  | nil => simp [put]
  | cons entry rest ih =>
      obtain ⟨first, old⟩ := entry
      by_cases same : first = name
      · subst first
        simp [put]
      · have other : name ≠ first := Ne.symm same
        by_cases present : name ∈ rest.map Prod.fst
        · simp [put, same, ih, present]
        · simp [put, same, other, ih, present]

theorem Distinct.put (distinct : base.Distinct) (name : Text) (value : Document) :
    (Extra.put base name value).Distinct := by
  rw [Distinct, names_put]
  split
  · exact distinct
  · rename_i absent
    rw [← List.concat_eq_append]
    exact distinct.concat absent

theorem Distinct.overlay (distinct : base.Distinct) (added : Extra) :
    (Extra.overlay base added).Distinct := by
  induction added generalizing base with
  | nil => exact distinct
  | cons entry rest ih => exact ih (distinct.put entry.1 entry.2)

/-- Of two values with one name the second counts. -/
theorem find?_overlay (base : Extra) (distinct : added.Distinct) (name : Text) :
    (base.overlay added).find? name = (added.find? name).or (base.find? name) := by
  induction added generalizing base with
  | nil => rfl
  | cons entry rest ih =>
      obtain ⟨absent, others⟩ := List.nodup_cons.mp distinct
      have later := ih (base.put entry.1 entry.2) others
      rw [show base.overlay (entry :: rest) = (base.put entry.1 entry.2).overlay rest from rfl,
        later, find?_put, find?_cons]
      by_cases same : entry.1 = name
      · subst name
        simp [find?_eq_none_iff.mpr absent]
      · simp [same]

end Extra

namespace Course

variable {first : Course} {next after : Session → Course} {raised : Raised}
  {entries : List Entry}

/-- The course with the entries that were written before it. -/
def preceded (entries : List Entry) (course : Course) : Course :=
  ⟨entries ++ course.entries, course.session, course.result⟩

/-- What follows a course is done only if the course succeeds. -/
def andThen (first : Course) (next : Session → Course) : Course :=
  match first.result with
  | .error raised => ⟨first.entries, first.session, .error raised⟩
  | .ok _ => (next first.session).preceded first.entries

theorem andThen_of_ok (succeeded : first.result = .ok ()) :
    first.andThen next = (next first.session).preceded first.entries := by
  rw [andThen, succeeded]

theorem andThen_of_error (failed : first.result = .error raised) :
    first.andThen next = first := by
  obtain ⟨entries, session, result⟩ := first
  obtain rfl : result = .error raised := failed
  rfl

@[simp] theorem preceded_preceded (course : Course) (entries others : List Entry) :
    (course.preceded entries).preceded others = course.preceded (others ++ entries) := by
  simp [preceded]

theorem preceded_andThen :
    (first.preceded entries).andThen next = (first.andThen next).preceded entries := by
  obtain ⟨earlier, session, result⟩ := first
  cases result <;> simp [andThen, preceded]

theorem andThen_eq_preceded :
    first.andThen next =
      ((Course.mk [] first.session first.result).andThen next).preceded first.entries := by
  rw [← preceded_andThen]
  simp [preceded]

theorem andThen_assoc :
    (first.andThen next).andThen after = first.andThen fun session =>
      (next session).andThen after := by
  cases ended : first.result with
  | error raised =>
      rw [andThen_of_error ended, andThen_of_error ended, andThen_of_error ended]
  | ok _ => rw [andThen_of_ok ended, andThen_of_ok ended, preceded_andThen]

end Course

namespace Session

theorem runAll_cons (session : Session) (logger : Logger) (step : Step) (rest : List Step) :
    session.runAll logger (step :: rest) =
      (session.run logger step).andThen fun session => session.runAll logger rest := by
  rw [runAll]
  rfl

theorem runAll_singleton (session : Session) (logger : Logger) (step : Step) :
    session.runAll logger [step] = session.run logger step := by
  rw [runAll_cons]
  cases session.run logger step with
  | mk entries session result => cases result <;> simp [runAll, Course.andThen, Course.preceded]

theorem runAll_append (session : Session) (logger : Logger) (steps rest : List Step) :
    session.runAll logger (steps ++ rest) =
      (session.runAll logger steps).andThen fun session => session.runAll logger rest := by
  induction steps generalizing session with
  | nil => simp [runAll, Course.andThen, Course.preceded]
  | cons step steps ih =>
      rw [List.cons_append, runAll_cons, runAll_cons, Course.andThen_assoc]
      congr 1
      funext session
      exact ih session

section Operation

variable {session : Session} {logger : Logger} {name : Text} {occurrence : Occurrence}
  {details : Extra} {steps : List Step}

/-- The steps of an operation, within it. -/
def inOperation (session : Session) (name : Text) (token : String) (details : Extra)
    (steps : List Step) : Course :=
  (session.enter name (Operation.job name token) details).runAll
    (Logger.operation name (Operation.job name token)) steps

/-- The entry at the end of an operation, if it has one. -/
def closing? (name : Text) (occurrence : Occurrence) (body : Course) : Option Entry :=
  (Operation.endNote? name (Operation.job name occurrence.token) occurrence.seconds
    body.result).map body.session.write

/-- An operation that began in a session comes to its end. -/
def wrapUp (session : Session) (name : Text) (occurrence : Occurrence) (body : Course) :
    Course :=
  ⟨body.entries ++ (closing? name occurrence body).toList, body.session.leave session,
    body.result⟩

theorem wrapUp_preceded (session : Session) (name : Text) (occurrence : Occurrence)
    (body : Course) (entries : List Entry) :
    session.wrapUp name occurrence (body.preceded entries) =
      (session.wrapUp name occurrence body).preceded entries := by
  simp [wrapUp, Course.preceded, closing?]

theorem run_operation (allowed : Operation.refusal? details = none) :
    session.run logger (.operation name occurrence details steps) =
      (session.wrapUp name occurrence
        (session.inOperation name occurrence.token details steps)).preceded
        [session.opening name occurrence.token details] := by
  simp only [run, allowed, wrapUp, closing?, Option.toList_map]
  rfl

/-- An operation with a detail of a name that is taken is not begun. -/
theorem run_operation_refused {raised : Raised}
    (refused : Operation.refusal? details = some raised) :
    session.run logger (.operation name occurrence details steps) =
      ⟨[], session, .error raised⟩ := by
  simp only [run, refused]

end Operation

/-- Two sessions are set up alike.  Surrounding values may differ. -/
structure SetAlike (session other : Session) : Prop where
  console : session.console = other.console
  configured : session.configured = other.configured

theorem SetAlike.refl (session : Session) : session.SetAlike session := ⟨rfl, rfl⟩

mutual

theorem run_setAlike {session other : Session} (logger others : Logger) (step : Step)
    (alike : session.SetAlike other) :
    (session.run logger step).session.SetAlike (other.run others step).session ∧
      (session.run logger step).session.ambient = session.ambient ∧
      (session.run logger step).result = (other.run others step).result := by
  cases step with
  | setUp verbosity => exact ⟨⟨rfl, rfl⟩, rfl, rfl⟩
  | write note => exact ⟨alike, rfl, rfl⟩
  | report level message => exact ⟨alike, rfl, rfl⟩
  | raise raised => exact ⟨alike, rfl, rfl⟩
  | operation name occurrence details steps =>
      cases refused : Operation.refusal? details with
      | some raised =>
          rw [run_operation_refused refused, run_operation_refused refused]
          exact ⟨alike, rfl, rfl⟩
      | none =>
          let job := Operation.job name occurrence.token
          have entered : (session.enter name job details).SetAlike
            (other.enter name job details) := ⟨alike.console, alike.configured⟩
          obtain ⟨left, _, ended⟩ := runAll_setAlike (Logger.operation name job)
            (Logger.operation name job) steps entered
          rw [run_operation refused, run_operation refused]
          exact ⟨⟨left.console, left.configured⟩, rfl, ended⟩

theorem runAll_setAlike {session other : Session} (logger others : Logger) (steps : List Step)
    (alike : session.SetAlike other) :
    (session.runAll logger steps).session.SetAlike (other.runAll others steps).session ∧
      (session.runAll logger steps).session.ambient = session.ambient ∧
      (session.runAll logger steps).result = (other.runAll others steps).result := by
  cases steps with
  | nil => exact ⟨alike, rfl, rfl⟩
  | cons step rest =>
      obtain ⟨left, kept, ended⟩ := run_setAlike logger others step alike
      rw [runAll_cons, runAll_cons]
      cases result : (session.run logger step).result with
      | error raised =>
          rw [Course.andThen_of_error result, Course.andThen_of_error (ended.symm.trans result)]
          exact ⟨left, kept, ended⟩
      | ok _ =>
          rw [Course.andThen_of_ok result, Course.andThen_of_ok (ended.symm.trans result)]
          obtain ⟨leftAfter, keptAfter, endedAfter⟩ := runAll_setAlike logger others rest left
          exact ⟨leftAfter, keptAfter.trans kept, endedAfter⟩

end

end Session

end ImageStages
