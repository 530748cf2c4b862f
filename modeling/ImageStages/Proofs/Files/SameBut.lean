import ImageStages.Proofs.Files

namespace ImageStages.Files

open Text (Location)

variable {locations : List Location} {left right : Files} {path place : List String}
  {location : Location} {node : Node}

/-- The same is found at every place, but for what the files hold to which the locations
lead. -/
def SameBut (locations : List Location) (left right : Files) : Prop :=
  ∀ place, left.node? place = right.node? place ∨
    (∃ location ∈ locations, left.resolve location = .ok place) ∧
      (∃ octets, left.node? place = some (.file octets)) ∧
        ∃ octets, right.node? place = some (.file octets)

theorem SameBut.refl (locations : List Location) (files : Files) :
    SameBut locations files files :=
  fun _ => .inl rfl

namespace SameBut

variable (same : SameBut locations left right)

include same

theorem directory_iff :
    left.node? place = some .directory ↔ right.node? place = some .directory := by
  rcases same place with equal | ⟨_, ⟨_, held⟩, _, other⟩
  · rw [equal]
  · simp [held, other]

theorem follow (names : List String) : left.follow place names = right.follow place names := by
  induction names generalizing place with
  | nil => rfl
  | cons name rest ih =>
      rw [Files.follow, Files.follow, ih]
      rcases same place with equal | ⟨_, ⟨_, held⟩, _, other⟩
      · rw [equal]
      · rw [held, other]

theorem resolve (location : Location) : left.resolve location = right.resolve location := by
  rw [Files.resolve, Files.resolve, same.follow]

/-- A location that leads to none of the files finds the same. -/
theorem stat (apart : left.Apart locations location) :
    left.stat location = right.stat location := by
  cases resolved : left.resolve location with
  | error trouble => simp [Files.stat, ← same.resolve, resolved]
  | ok place =>
      rcases same place with equal | ⟨⟨other, member, led⟩, _⟩
      · simp [Files.stat, ← same.resolve, resolved, equal]
      · exact absurd (led.trans resolved.symm) (apart other member)

/-- What is put at one place leaves no other difference, if it is the same in both, or if
both are files and one of the locations leads there. -/
theorem put {other : Node} (apart : left.node? path ≠ some .directory)
    (alike : node = other ∨ (∃ location ∈ locations, left.resolve location = .ok path) ∧
      (∃ octets, node = .file octets) ∧ ∃ octets, other = .file octets) :
    SameBut locations (left.put path node) (right.put path other) := by
  intro place
  rw [node?_put, node?_put]
  by_cases here : place = path
  · subst here
    rw [if_pos rfl, if_pos rfl]
    rcases alike with rfl | ⟨⟨location, member, led⟩, ⟨_, rfl⟩, _, rfl⟩
    · exact .inl rfl
    · exact .inr ⟨⟨location, member, resolve_put apart led⟩, ⟨_, rfl⟩, _, rfl⟩
  · -- Elsewhere a directory may come to be on the way, in both where nothing was.
    rw [if_neg here, if_neg here]
    rcases same place with equal | ⟨⟨location, member, led⟩, ⟨_, held⟩, _, also⟩
    · rw [equal]
      exact .inl rfl
    · rw [held, also]
      exact .inr ⟨⟨location, member, resolve_put apart led⟩, ⟨_, rfl⟩, _, rfl⟩

/-- A write is refused for the same reason, or what it leaves has no other difference. -/
theorem write (location : Location) (octets : List UInt8) :
    (∃ mishap, left.write location octets = .error mishap ∧
        right.write location octets = .error mishap) ∨
      ∃ written others, left.write location octets = .ok written ∧
        right.write location octets = .ok others ∧ SameBut locations written others := by
  cases nul : hasNul location with
  | true => exact .inl ⟨.nulInPath, by simp [Files.write, nul]⟩
  | false =>
      have resolved := same.resolve location
      cases led : left.resolve location with
      | error trouble =>
          rw [led] at resolved
          exact .inl ⟨refusal location trouble, by simp [Files.write, nul, led, ← resolved]⟩
      | ok path =>
          rw [led] at resolved
          by_cases directory : left.node? path = some .directory
          · have other := same.directory_iff.mp directory
            exact .inl ⟨refusal location .isDirectory, by
              simp [Files.write, nul, led, ← resolved, directory, other]⟩
          · have other := mt same.directory_iff.mpr directory
            exact .inr ⟨_, _, write_ok_iff.mpr ⟨nul, path, led, directory, rfl⟩,
              write_ok_iff.mpr ⟨nul, path, resolved.symm, other, rfl⟩,
              same.put directory (.inl rfl)⟩

end SameBut

end ImageStages.Files
