import ImageStages.Proofs.Results
import ImageStages.Template.Fill

namespace ImageStages.Template

def Fault.IsMishap : Fault → Prop
  | .mishap _ => True
  | _ => False

/-- The argument is a text, also in the place of any of its keys. -/
structure Argument.HoldsText (argument : Argument) : Prop where
  whole : ∃ value, argument.whole = .text value
  current : ∃ value, argument.current = .text value

variable {argument : Argument} {reading : Reading}

theorem Argument.HoldsText.isMapping_eq_false (holds : argument.HoldsText) :
    argument.isMapping = false := by
  obtain ⟨value, whole⟩ := holds.whole
  simp [isMapping, whole]

/-- Reading leaves the argument as it is, or stops at a fault that is no mishap. -/
def Keeps (argument : Argument) (left : α → Argument) : Except Fault α → Prop
  | .ok value => left value = argument
  | .error fault => ¬ fault.IsMishap

@[simp] theorem keeps_ok {left : α → Argument} {value : α} :
    Keeps argument left (.ok value) ↔ left value = argument := Iff.rfl

@[simp] theorem keeps_error {left : α → Argument} {fault : Fault} :
    Keeps argument left (.error fault : Except Fault α) ↔ ¬ fault.IsMishap := Iff.rfl

theorem Keeps.bind {left : α → Argument} {lastly : β → Argument} {first : Except Fault α}
    {next : α → Except Fault β} (kept : Keeps argument left first)
    (goesOn : ∀ value, left value = argument → Keeps argument lastly (next value)) :
    Keeps argument lastly (first >>= next) := by
  cases completed : first with
  | error fault => simpa [completed] using kept
  | ok value =>
      rw [completed] at kept
      exact goesOn value kept

theorem readKey_keeps (holds : reading.argument.HoldsText) :
    Keeps reading.argument Reading.argument (readKey reading) := by
  unfold readKey
  split
  · simp [holds.isMapping_eq_false, Fault.IsMishap]
  · rfl

theorem takeCount_keeps (holds : reading.argument.HoldsText) (least greatest : Int)
    (tooBig : String) (left : Int × Reading → Argument) :
    Keeps reading.argument left (takeCount reading least greatest tooBig) := by
  obtain ⟨text, current⟩ := holds.current
  cases used : reading.argument.used <;>
    simp [takeCount, Argument.take, used, current, Scalar.int?, Fault.IsMishap]

theorem readWidth_keeps (holds : reading.argument.HoldsText) (flags : Flags) :
    Keeps reading.argument (·.2.2.argument) (readWidth flags reading) := by
  unfold readWidth
  split
  · exact (takeCount_keeps holds _ _ _ (·.2.argument)).bind fun _ kept => kept
  · simp only
    split
    · rfl
    · split
      · simp [Fault.IsMishap]
      · rfl

theorem readPrecision_keeps (holds : reading.argument.HoldsText) :
    Keeps reading.argument (·.2.argument) (readPrecision reading) := by
  unfold readPrecision
  split
  · exact (takeCount_keeps holds _ _ _ (·.2.argument)).bind fun _ kept => kept
  · split
    · simp [Fault.IsMishap]
    · rfl
  · rfl

theorem readDirective_keeps (reading : Reading) (holds : reading.argument.HoldsText) :
    Keeps reading.argument (·.2.argument) (readDirective reading) := by
  refine (readKey_keeps holds).bind fun keyed kept => ?_
  simp only [← kept] at holds ⊢
  have flagged : (readFlags keyed).2.argument.HoldsText := holds
  refine (readWidth_keeps flagged (readFlags keyed).1).bind fun widened kept => ?_
  simp only [← kept] at flagged ⊢
  refine (readPrecision_keeps flagged).bind fun cut kept => ?_
  simp only [← kept]
  split
  · simp [Fault.IsMishap]
  · rfl

/-- No conversion computes with a text. -/
theorem not_mishap_convert (directive : Directive) (text : Text) :
    ¬ FailsWith Fault.IsMishap (convert directive (.text text)) := by
  have character : ¬ FailsWith Fault.IsMishap (singleCharacter (.text text)) := by
    unfold singleCharacter
    simp only
    split <;> simp [Fault.IsMishap]
  simp [convert, apply_ite (FailsWith Fault.IsMishap), wholeNumber, exactInteger, realNumber,
    Scalar.int?, Fault.IsMishap, character]

theorem not_mishap_take : ¬ FailsWith Fault.IsMishap argument.take := by
  unfold Argument.take
  split <;> simp [Fault.IsMishap]

theorem take_holdsText {value : Document} {rest : Argument} (holds : argument.HoldsText)
    (taken : argument.take = .ok (value, rest)) :
    (∃ text, value = .text text) ∧ rest.HoldsText := by
  unfold Argument.take at taken
  split at taken
  · contradiction
  · obtain ⟨rfl, rfl⟩ := Prod.mk.inj (Except.ok.inj taken)
    exact ⟨holds.current, holds.whole, holds.current⟩

theorem not_mishap_fillFrom (fuel : Nat) (holds : reading.argument.HoldsText) :
    ¬ FailsWith Fault.IsMishap (fillFrom fuel reading) := by
  -- The argument holds a text throughout: reading a directive keeps it, and so does taking it.
  fun_induction fillFrom fuel reading with
  | case1 => simp
  | case2 => simp [Fault.IsMishap]
  | case3 => simp
  | case4 reading fuel rest escape ih => simpa using ih holds
  | case5 reading fuel rest single start ih =>
      have keeps := readDirective_keeps (reading.advance rest) holds
      cases completed : readDirective (reading.advance rest) with
      | error fault =>
          rw [completed] at keeps
          simpa using keeps
      | ok read =>
          rw [completed] at keeps
          have held : read.2.argument.HoldsText := by
            rw [keeps_ok.mp keeps]
            exact holds
          simp only [Except.ok_bind, failsWith_bind, not_mishap_take, false_or]
          intro known
          obtain ⟨⟨value, argument⟩, taken, failed⟩ := known
          obtain ⟨⟨text, rfl⟩, kept⟩ := take_holdsText held taken
          have tail := ih read.2 argument kept
          simp_all [not_mishap_convert]
  | case6 reading fuel c rest _ _ _ ih => simpa using ih holds

/-- Filling a template with a text never ends in a mishap. -/
theorem not_mishap_fill (template : Text) (text : Text) :
    ¬ FailsWith Fault.IsMishap (fill template (.text text)) :=
  not_mishap_fillFrom template.length ⟨⟨text, rfl⟩, ⟨text, rfl⟩⟩

end ImageStages.Template
