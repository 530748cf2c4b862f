import ImageStages.Failure
import ImageStages.Journal.Note

namespace ImageStages

/-- A result or a failure, together with the notes written on the way.  The notes of what
was done before a failure remain. -/
@[ext]
structure Outcome (α : Type) where
  notes : List Note
  result : Except Failure α

namespace Outcome

def ok (value : α) : Outcome α := ⟨[], .ok value⟩

def fail (failure : Failure) : Outcome α := ⟨[], .error failure⟩

def note (note : Note) : Outcome Unit := ⟨[note], .ok ()⟩

def ofExcept (result : Except Failure α) : Outcome α := ⟨[], result⟩

def andThen (first : Outcome α) (next : α → Outcome β) : Outcome β :=
  match first.result with
  | .error failure => ⟨first.notes, .error failure⟩
  | .ok value =>
      let second := next value
      ⟨first.notes ++ second.notes, second.result⟩

instance : Monad Outcome where
  pure := ok
  bind := andThen

instance : MonadLift (Except Failure) Outcome where
  monadLift := ofExcept

instance : MonadLift (Except Mishap) (Except Failure) where
  monadLift := Except.mapError .mishap

@[simp] theorem result_pure (value : α) : (pure value : Outcome α).result = .ok value := rfl

@[simp] theorem notes_pure (value : α) : (pure value : Outcome α).notes = [] := rfl

@[simp] theorem result_note (written : Note) : (Outcome.note written).result = .ok () := rfl

@[simp] theorem result_fail (failure : Failure) :
    (Outcome.fail failure : Outcome α).result = .error failure := rfl

@[simp] theorem result_lift (result : Except Failure α) :
    (liftM result : Outcome α).result = result := rfl

@[simp] theorem result_lift_mishap (result : Except Mishap α) :
    (liftM result : Outcome α).result = result.mapError .mishap := rfl

@[simp] theorem lift_mishap (result : Except Mishap α) :
    (liftM result : Except Failure α) = result.mapError .mishap := rfl

@[simp] theorem result_bind (first : Outcome α) (next : α → Outcome β) :
    (first >>= next).result = first.result >>= fun value => (next value).result := by
  change (first.andThen next).result = _
  cases completed : first.result with
  | error failure => simp only [andThen, completed]; rfl
  | ok value => simp only [andThen, completed]; rfl

theorem notes_bind (first : Outcome α) (next : α → Outcome β) :
    (first >>= next).notes = first.notes ++
      (match first.result with
        | .error _ => []
        | .ok value => (next value).notes) := by
  change (first.andThen next).notes = _
  cases completed : first.result with
  | error failure => simp only [andThen, completed, List.append_nil]
  | ok value => simp only [andThen, completed]

end Outcome

end ImageStages
