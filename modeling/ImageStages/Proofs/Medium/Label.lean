import ImageStages.Proofs.Medium.Supported
import ImageStages.Proofs.Template.Place

namespace ImageStages.Medium

open Template (Places ShowsText)

variable {label name : Text}

/-- The architecture is put in the place of a label that has one, and other labels are refused. -/
structure FillsPlace (label name : Text) (result : Except Failure Document) : Prop where
  filled : ∀ form, Places [.char 's'] name label form →
    result = .ok (.text form)
  refused : (¬ ∃ form, Places [.char 's'] name label form) →
    ∃ fault, result = .error (labelRefusal label fault)

/-- The only directive shows the architecture, but is not the plain conversion. -/
def HasOtherPlace (label name : Text) : Prop :=
  ∃ spec body form, spec ≠ [.char 's'] ∧ ShowsText name spec ∧
    Places spec body label form

theorem volumeId_of_fill {filled : Text}
    (completed : Template.fill label (.text name) = .ok filled) :
    volumeId (.text label) (.text name) = .ok (.text filled) := by
  simp [volumeId, combine, completed]

theorem not_refused_of_otherPlace (other : HasOtherPlace label name) :
    (¬ ∃ form, Places [.char 's'] name label form) ∧
      ∃ volume, volumeId (.text label) (.text name) = .ok volume := by
  obtain ⟨spec, body, form, unplain, shows, places⟩ := other
  constructor
  · intro plain
    obtain ⟨form, plain⟩ := plain
    exact unplain (Template.eq_plain_of_places plain shows places)
  · obtain ⟨filled, completed⟩ := Template.fill_succeeds_iff.mpr ⟨spec, body, form, shows, places⟩
    exact ⟨_, volumeId_of_fill completed⟩

/-- A label fills its place or is refused, unless a conversion changes what it shows. -/
theorem volumeId_fillsPlace_iff (label name : Text) :
    FillsPlace label name (volumeId (.text label) (.text name)) ↔ ¬ HasOtherPlace label name := by
  constructor
  · intro contract other
    obtain ⟨unplaced, volume, accepted⟩ := not_refused_of_otherPlace other
    obtain ⟨fault, failed⟩ := contract.refused unplaced
    rw [accepted] at failed
    cases failed
  · intro none
    refine ⟨fun form places => volumeId_of_fill (Template.fill_plain places), fun unplaced => ?_⟩
    cases completed : Template.fill label (.text name) with
    | error fault => exact ⟨fault, volumeId_error_iff.mpr ⟨fault, completed, rfl⟩⟩
    | ok filled =>
        obtain ⟨spec, body, form, shows, places⟩ :=
          Template.fill_succeeds_iff.mp ⟨filled, completed⟩
        have plain : spec = [.char 's'] := by
          by_contra unplain
          exact none ⟨spec, body, form, unplain, shows, places⟩
        exact absurd (places.withBody name) (plain ▸ unplaced)

/-- A label may put the architecture in quotes. -/
theorem volumeId_quotes :
    volumeId (.text "L-%r") (.text "x86_64") = .ok (.text "L-'x86_64'") ∧
      ¬ FillsPlace "L-%r" "x86_64" (volumeId (.text "L-%r") (.text "x86_64")) := by
  have quoted : volumeId (.text "L-%r") (.text "x86_64") = .ok (.text "L-'x86_64'") := by
    have filled : Template.fill "L-%r" (.text "x86_64") = .ok "L-'x86_64'" :=
      Except.eq_ok_of_toOption (by decide +kernel)
    exact volumeId_of_fill filled
  refine ⟨quoted, fun contract => ?_⟩
  have shows : ShowsText "x86_64" [.char 'r'] := .ofTakesText (.inr (.inl rfl))
  have places : Places [.char 'r'] [] "L-%r" [.char 'L', .char '-'] :=
    Places.plain (by decide) (Places.plain (by decide) (.parts .nil .nil))
  obtain ⟨unplaced, _⟩ := not_refused_of_otherPlace ⟨_, _, _, by decide, shows, places⟩
  obtain ⟨fault, failed⟩ := contract.refused unplaced
  rw [quoted] at failed
  cases failed

end ImageStages.Medium
