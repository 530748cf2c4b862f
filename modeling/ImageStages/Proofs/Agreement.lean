import ImageStages.Journal.Session
import ImageStages.Proofs.Results

namespace ImageStages

/-! Two runs that agree.

Two results agree when both are the same failure or both succeed with related values, and
two outcomes agree when their notes also correspond one by one.  Agreement is kept by
taking a step after another, so it holds for whole runs where it holds for each step. -/

/-- The results are the same failure, or values that are related. -/
inductive Except.Agree (related : α → β → Prop) : Except ε α → Except ε β → Prop
  | ok {left : α} {right : β} (holds : related left right) : Agree related (.ok left) (.ok right)
  | error (reason : ε) : Agree related (.error reason) (.error reason)

namespace Except.Agree

variable {related : α → β → Prop} {next : γ → δ → Prop} {first : Except ε α}
  {second : Except ε β}

theorem of_eq {first second : Except ε α} (same : first = second)
    (related : α → α → Prop) (reflexive : ∀ value, related value value) :
    Agree related first second := by
  subst same
  cases first with
  | ok value => exact .ok (reflexive value)
  | error reason => exact .error reason

theorem bind {continued : α → Except ε γ} {other : β → Except ε δ}
    (agree : Agree related first second)
    (steps : ∀ {left right}, related left right → Agree next (continued left) (other right)) :
    Agree next (first >>= continued) (second >>= other) := by
  cases agree with
  | ok holds => exact steps holds
  | error reason => exact .error reason

theorem mono {wider : α → β → Prop} (agree : Agree related first second)
    (weaken : ∀ {left right}, related left right → wider left right) :
    Agree wider first second := by
  cases agree with
  | ok holds => exact .ok (weaken holds)
  | error reason => exact .error reason

/-- Results that agree are the same failure or two successes. -/
theorem failed_or_succeeded (agree : Agree related first second) :
    (∃ reason, first = .error reason ∧ second = .error reason) ∨
      ∃ left right, first = .ok left ∧ second = .ok right ∧ related left right := by
  cases agree with
  | ok holds => exact .inr ⟨_, _, rfl, rfl, holds⟩
  | error reason => exact .inl ⟨reason, rfl, rfl⟩

end Except.Agree

/-- The notes correspond one by one, and the results agree. -/
structure Outcome.Agree (noted : Note → Note → Prop) (related : α → β → Prop)
    (left : Outcome α) (right : Outcome β) : Prop where
  notes : List.Forall₂ noted left.notes right.notes
  result : Except.Agree related left.result right.result

namespace Outcome.Agree

variable {noted : Note → Note → Prop} {related : α → β → Prop} {next : γ → δ → Prop}
  {first : Outcome α} {second : Outcome β}

theorem pure {left : α} {right : β} (holds : related left right) :
    Agree noted related (Pure.pure left) (Pure.pure right) :=
  ⟨.nil, .ok holds⟩

theorem note {left right : Note} (holds : noted left right) :
    Agree noted Eq (Outcome.note left) (Outcome.note right) :=
  ⟨.cons holds .nil, .ok rfl⟩

theorem refl (reflexive : ∀ note, noted note note) (outcome : Outcome α) :
    Agree noted Eq outcome outcome :=
  ⟨List.forall₂_same.mpr fun note _ => reflexive note, .of_eq rfl _ fun _ => rfl⟩

/-- Outcomes that agree end alike. -/
theorem ended (agree : Agree noted related first second) :
    (first.result.map fun _ => ()) = second.result.map fun _ => () := by
  rcases agree.result.failed_or_succeeded with ⟨reason, failed, also⟩ | ⟨_, _, done, also, _⟩
  · rw [failed, also]
    rfl
  · rw [done, also]
    rfl

theorem result_eq {first second : Outcome α} (agree : Agree noted Eq first second) :
    first.result = second.result := by
  rcases agree.result.failed_or_succeeded with ⟨reason, failed, also⟩ | ⟨_, _, done, also, rfl⟩
  · rw [failed, also]
  · rw [done, also]

theorem mono {wider : α → β → Prop} (agree : Agree noted related first second)
    (weaken : ∀ {left right}, related left right → wider left right) :
    Agree noted wider first second :=
  ⟨agree.notes, agree.result.mono weaken⟩

theorem bind {continued : α → Outcome γ} {other : β → Outcome δ}
    (agree : Agree noted related first second)
    (steps : ∀ {left right}, related left right →
      Agree noted next (continued left) (other right)) :
    Agree noted next (first >>= continued) (second >>= other) := by
  obtain ⟨earlier, ended⟩ := first
  obtain ⟨others, finished⟩ := second
  obtain ⟨notes, result⟩ := agree
  cases result with
  | error reason => exact ⟨notes, .error reason⟩
  | ok holds =>
      have later := steps holds
      exact ⟨List.rel_append notes later.notes, later.result⟩

theorem mapM {step : α → Outcome γ} {other : β → Outcome δ} {values : List α}
    {others : List β}
    (each : List.Forall₂ (fun left right => Agree noted next (step left) (other right))
      values others) :
    Agree noted (List.Forall₂ next) (values.mapM step) (others.mapM other) := by
  induction each with
  | nil => exact pure .nil
  | cons agree _ ih =>
      rw [List.mapM_cons, List.mapM_cons]
      refine agree.bind fun head => ih.bind fun tail => ?_
      exact pure (.cons head tail)

end Outcome.Agree

namespace Session

variable {session : Session} {logger : Logger}

/-- Notes are written one by one, and leave the session as it is. -/
theorem runAll_write (notes : List Note) (steps : List Step) :
    session.runAll logger (notes.map .write ++ steps) =
      { session.runAll logger steps with
        entries := notes.map session.write ++ (session.runAll logger steps).entries } := by
  induction notes with
  | nil => rfl
  | cons note rest ih => simp [runAll, run, ih]

theorem runAll_ofOutcome (outcome : Outcome α) :
    session.runAll logger (Step.ofOutcome outcome) =
      ⟨outcome.notes.map session.write, session,
        (outcome.result.map fun _ => ()).mapError .failure⟩ := by
  rw [Step.ofOutcome, runAll_write]
  cases outcome.result <;> simp [runAll, run, Except.map, Except.mapError]

end Session

end ImageStages
