import Mathlib.Data.List.Forall2
import ImageStages.Outcome

namespace ImageStages

theorem exists_first_cons_iff {passed found : α → Prop} {head : α} {rest : List α} :
    (∃ before value after, head :: rest = before ++ value :: after ∧
        (∀ earlier ∈ before, passed earlier) ∧ found value) ↔
      found head ∨ passed head ∧ ∃ before value after, rest = before ++ value :: after ∧
        (∀ earlier ∈ before, passed earlier) ∧ found value := by
  constructor
  · intro known
    obtain ⟨before, value, after, split, others, holds⟩ := known
    rcases List.cons_eq_append_iff.mp split with ⟨rfl, same⟩ | ⟨before, rfl, rfl⟩
    · obtain ⟨rfl, rfl⟩ := List.cons.inj same
      exact .inl holds
    · rw [List.forall_mem_cons] at others
      exact .inr ⟨others.1, before, value, after, rfl, others.2, holds⟩
  · intro facts
    rcases facts with holds | ⟨first, before, value, after, rfl, others, holds⟩
    · exact ⟨[], head, rest, rfl, by simp, holds⟩
    · exact ⟨head :: before, value, after, rfl, List.forall_mem_cons.mpr ⟨first, others⟩, holds⟩

theorem exists_related {related : α → β → Prop} {values : List α} {results : List β}
    (each : List.Forall₂ related values results) {value : α} (member : value ∈ values) :
    ∃ result ∈ results, related value result := by
  induction each with
  | nil => cases member
  | cons first _ ih =>
      rcases List.mem_cons.mp member with rfl | member
      · exact ⟨_, by simp, first⟩
      · obtain ⟨result, present, holds⟩ := ih member
        exact ⟨result, by simp [present], holds⟩

namespace Except

variable {first : Except ε α} {next : α → Except ε β} {value : β} {reason : ε}

@[simp] theorem ok_bind (value : α) (next : α → Except ε β) :
    (.ok value >>= next) = next value := rfl

@[simp] theorem error_bind (reason : ε) (next : α → Except ε β) :
    (.error reason >>= next) = .error reason := rfl

@[simp] theorem mapError_ok (value : α) (convert : ε → δ) :
    (Except.ok value : Except ε α).mapError convert = .ok value := rfl

@[simp] theorem mapError_error (reason : ε) (convert : ε → δ) :
    (Except.error reason : Except ε α).mapError convert = .error (convert reason) := rfl

@[simp] theorem pure_eq_ok (value : α) : (pure value : Except ε α) = .ok value := rfl

theorem bind_eq_ok_iff :
    (first >>= next) = .ok value ↔ ∃ middle, first = .ok middle ∧ next middle = .ok value := by
  cases first with
  | error reason => simp
  | ok middle => simp

theorem bind_eq_error_iff :
    (first >>= next) = .error reason ↔
      first = .error reason ∨ ∃ middle, first = .ok middle ∧ next middle = .error reason := by
  cases first with
  | error reason => simp
  | ok middle => simp

@[simp] theorem mapError_eq_ok_iff {convert : ε → δ} {value : α} :
    first.mapError convert = .ok value ↔ first = .ok value := by
  cases first <;> simp [Except.mapError]

@[simp] theorem mapError_eq_error_iff {convert : ε → δ} {reason : δ} :
    first.mapError convert = .error reason ↔
      ∃ cause, first = .error cause ∧ convert cause = reason := by
  cases first <;> simp [Except.mapError]

@[simp] theorem map_eq_ok_iff {convert : α → β} :
    first.map convert = .ok value ↔ ∃ middle, first = .ok middle ∧ convert middle = value := by
  cases first <;> simp [Except.map]

@[simp] theorem map_eq_error_iff {convert : α → β} :
    first.map convert = .error reason ↔ first = .error reason := by
  cases first <;> simp [Except.map]

theorem eq_ok_of_toOption {value : α} (succeeded : first.toOption = some value) :
    first = .ok value := by
  cases first with
  | error reason => cases succeeded
  | ok other => rw [Option.some.inj succeeded]

theorem map_succeeds_iff {convert : α → β} :
    (∃ value, first.map convert = .ok value) ↔ ∃ middle, first = .ok middle := by
  simp

theorem mapM_eq_ok_iff {step : α → Except ε β} {values : List α} {results : List β} :
    values.mapM step = .ok results ↔
      List.Forall₂ (fun value result => step value = .ok result) values results := by
  induction values generalizing results with
  | nil =>
      simp only [List.mapM_nil, pure_eq_ok, Except.ok.injEq, List.forall₂_nil_left_iff]
      exact eq_comm
  | cons head rest ih =>
      simp only [List.mapM_cons, bind_eq_ok_iff, pure_eq_ok, Except.ok.injEq, ih,
        List.forall₂_cons_left_iff]
      constructor
      · intro succeeded
        obtain ⟨result, completed, others, remaining, rfl⟩ := succeeded
        exact ⟨result, others, completed, remaining, rfl⟩
      · intro made
        obtain ⟨result, others, completed, remaining, rfl⟩ := made
        exact ⟨result, completed, others, remaining, rfl⟩

theorem mapM_succeeds_iff {step : α → Except ε β} {values : List α} :
    (∃ results, values.mapM step = .ok results) ↔
      ∀ value ∈ values, ∃ result, step value = .ok result := by
  induction values with
  | nil => simp
  | cons head rest ih =>
      simp only [List.forall_mem_cons, ← ih, List.mapM_cons, bind_eq_ok_iff, pure_eq_ok,
        Except.ok.injEq]
      constructor
      · intro succeeded
        obtain ⟨_, result, completed, others, remaining, rfl⟩ := succeeded
        exact ⟨⟨result, completed⟩, others, remaining⟩
      · intro made
        obtain ⟨⟨result, completed⟩, others, remaining⟩ := made
        exact ⟨_, result, completed, others, remaining, rfl⟩

theorem mapM_eq_error_iff {step : α → Except ε β} {values : List α} :
    values.mapM step = .error reason ↔
      ∃ before value after, values = before ++ value :: after ∧
        (∀ earlier ∈ before, ∃ result, step earlier = .ok result) ∧
        step value = .error reason := by
  induction values with
  | nil => simp
  | cons head rest ih =>
      rw [exists_first_cons_iff, ← ih, List.mapM_cons, bind_eq_error_iff]
      simp [bind_eq_error_iff]

end Except

namespace Outcome

instance : LawfulMonad Outcome := LawfulMonad.mk' _
  (fun outcome => by
    obtain ⟨notes, result⟩ := outcome
    cases result <;> simp [Functor.map, andThen, ok])
  (fun value next => rfl)
  (fun first second third => by
    refine Outcome.ext ?_ ?_
    · cases completed : first.result with
      | error failure => simp [notes_bind, completed]
      | ok value =>
          cases continued : (second value).result <;>
            simp [notes_bind, completed, continued]
    · cases completed : first.result <;> simp [completed])

@[simp] theorem result_map (convert : α → β) (outcome : Outcome α) :
    (convert <$> outcome).result = outcome.result.map convert := by
  rw [map_eq_pure_bind, result_bind]
  cases outcome.result <;> rfl

theorem result_mapM (step : α → Outcome β) (values : List α) :
    (values.mapM step).result = values.mapM fun value => (step value).result := by
  induction values with
  | nil => rfl
  | cons head rest ih => simp only [List.mapM_cons, result_bind, result_pure, ih]; rfl

end Outcome

/-- The result is a failure of the given sort. -/
def FailsWith (sort : ε → Prop) (result : Except ε α) : Prop :=
  ∃ reason, result = .error reason ∧ sort reason

section FailsWith

variable {sort : ε → Prop} {first : Except ε α} {next : α → Except ε β}

@[simp] theorem not_failsWith_ok (value : α) : ¬ FailsWith sort (.ok value) := by
  simp [FailsWith]

@[simp] theorem failsWith_error {reason : ε} :
    FailsWith sort (.error reason : Except ε α) ↔ sort reason := by
  simp [FailsWith]

@[simp] theorem failsWith_bind :
    FailsWith sort (first >>= next) ↔
      FailsWith sort first ∨ ∃ middle, first = .ok middle ∧ FailsWith sort (next middle) := by
  cases first with
  | error reason => simp
  | ok middle => simp

@[simp] theorem failsWith_map {convert : α → β} :
    FailsWith sort (first.map convert) ↔ FailsWith sort first := by
  simp [FailsWith]

@[simp] theorem failsWith_mapError {convert : δ → ε} {use : Except δ α} :
    FailsWith sort (use.mapError convert) ↔ FailsWith (fun cause => sort (convert cause)) use := by
  simp [FailsWith]

theorem failsWith_mapM_iff {step : α → Except ε β} {values : List α} :
    FailsWith sort (values.mapM step) ↔
      ∃ before value after, values = before ++ value :: after ∧
        (∀ earlier ∈ before, ∃ result, step earlier = .ok result) ∧
        FailsWith sort (step value) := by
  simp only [FailsWith, Except.mapM_eq_error_iff]
  constructor
  · intro holds
    obtain ⟨reason, ⟨before, value, after, split, succeeded, failed⟩, sorted⟩ := holds
    exact ⟨before, value, after, split, succeeded, reason, failed, sorted⟩
  · intro known
    obtain ⟨before, value, after, split, succeeded, reason, failed, sorted⟩ := known
    exact ⟨reason, ⟨before, value, after, split, succeeded, failed⟩, sorted⟩

/-- Where every failure of a step is of the sort, a sequence fails as soon as one of its
steps does. -/
theorem failsWith_mapM_of_sorted {step : α → Except ε β} {values : List α}
    (sorted : ∀ {value reason}, step value = .error reason → sort reason) :
    FailsWith sort (values.mapM step) ↔ ∃ value ∈ values, FailsWith sort (step value) := by
  constructor
  · intro failed
    obtain ⟨_, value, _, rfl, _, failed⟩ := failsWith_mapM_iff.mp failed
    exact ⟨value, by simp, failed⟩
  · intro holds
    obtain ⟨value, member, reason, failed, _⟩ := holds
    cases completed : values.mapM step with
    | ok results =>
        obtain ⟨result, contrary⟩ := Except.mapM_succeeds_iff.mp ⟨results, completed⟩ value member
        rw [failed] at contrary
        contradiction
    | error first =>
        obtain ⟨_, _, _, _, _, failed⟩ := Except.mapM_eq_error_iff.mp completed
        exact failsWith_error.mpr (sorted failed)

end FailsWith

/-- The failure is neither invalid input nor a violated invariant. -/
def Failure.IsStray : Failure → Prop
  | .invalid _ | .invariant _ => False
  | .general _ | .mishap _ => True

@[simp] theorem Failure.isStray_mishap (cause : Mishap) : (Failure.mishap cause).IsStray :=
  trivial

@[simp] theorem Failure.not_isStray_invalid (cause : InvalidInput) :
    ¬ (Failure.invalid cause).IsStray := id

@[simp] theorem Failure.not_isStray_invariant (cause : InvariantViolation) :
    ¬ (Failure.invariant cause).IsStray := id

@[simp] theorem Failure.not_isStray_badRequest (message : Text) (field : Option String) :
    ¬ (Failure.badRequest message field).IsStray := id

/-- The result is a failure of neither severity. -/
abbrev Strays (result : Except Failure α) : Prop :=
  FailsWith Failure.IsStray result

end ImageStages
