import ImageStages.Proofs.Document.Readable
import ImageStages.Settings

namespace ImageStages.Settings

open Text (Location)

variable {files : Files} {location : Location} {fields : Fields} {settings : Settings}
  {mishap : Mishap} {s : List Char}

/-- The location leads to a file with the text of an object. -/
def HoldsObject (files : Files) (location : Location) (fields : Fields) : Prop :=
  ∃ s, files.readText location = .ok s ∧ Json.read s = .ok (.object fields)

theorem HoldsObject.distinct (holds : HoldsObject files location fields) :
    fields.Distinct := by
  obtain ⟨s, _, read⟩ := holds
  have named : Fields.Named fields := (Json.read_readable read).here.1
  exact named.distinct

/-- What loading does not excuse: a path that cannot be looked at, octets that are no text
or too many, and numbers with more digits than are read. -/
inductive Unexcused (files : Files) (location : Location) : Mishap → Prop
  | path {mishap : Mishap} (asked : files.exists? location = .error mishap) :
      Unexcused files location mishap
  | octets {mishap : Mishap} (present : files.exists? location = .ok true)
      (unread : files.readText location = .error mishap) (other : mishap.family ≠ .file) :
      Unexcused files location mishap
  | digits {s : List Char} {count : Nat} (held : files.readText location = .ok s)
      (endless : Json.read s = .error (.tooManyDigits count)) :
      Unexcused files location (.tooManyDigits count)

theorem exists?_of_readText (held : files.readText location = .ok s) :
    files.exists? location = .ok true := by
  unfold Files.readText at held
  unfold Files.exists?
  split at held
  · cases held
  · rename_i plain
    rw [if_neg plain]
    split at held
    · cases held
    · cases held
    · rename_i found
      rw [found]

theorem load?_of_text (held : files.readText location = .ok s) :
    load? files location = ofText? s := by
  simp [load?, exists?_of_readText held, held]

/-- The built-in settings, overlaid with the fields of an object. -/
def overlaid (fields : Fields) : Settings :=
  ⟨builtin.values.putAll fields⟩

theorem ofText?_eq_some_iff :
    ofText? s = .ok (some settings) ↔
      ∃ fields, Json.read s = .ok (.object fields) ∧ settings = overlaid fields := by
  cases read : Json.read s with
  | error fault => cases fault <;> simp [ofText?, read]
  | ok value => cases value <;> simp [ofText?, read, overlaid, eq_comm]

theorem ofText?_eq_error_iff :
    ofText? s = .error mishap ↔
      ∃ count, Json.read s = .error (.tooManyDigits count) ∧ mishap = .tooManyDigits count := by
  cases read : Json.read s with
  | error fault => cases fault <;> simp [ofText?, read, eq_comm]
  | ok value => cases value <;> simp [ofText?, read]

theorem load?_eq_some_iff :
    load? files location = .ok (some settings) ↔
      ∃ fields, HoldsObject files location fields ∧ settings = overlaid fields := by
  constructor
  · intro loaded
    obtain ⟨present, _, loaded⟩ := Except.bind_eq_ok_iff.mp loaded
    cases present with
    | false => cases loaded
    | true =>
        rw [if_pos rfl] at loaded
        split at loaded
        · rename_i s held
          obtain ⟨fields, read, same⟩ := ofText?_eq_some_iff.mp loaded
          exact ⟨fields, ⟨s, held, read⟩, same⟩
        · cases loaded
        · cases loaded
  · rintro ⟨fields, ⟨s, held, read⟩, same⟩
    rw [load?_of_text held, ofText?_eq_some_iff]
    exact ⟨fields, read, same⟩

theorem load?_eq_error_iff :
    load? files location = .error mishap ↔ Unexcused files location mishap := by
  constructor
  · intro failed
    rcases Except.bind_eq_error_iff.mp failed with asked | ⟨present, asked, failed⟩
    · exact .path asked
    · cases present with
      | false => cases failed
      | true =>
          rw [if_pos rfl] at failed
          split at failed
          · rename_i s held
            obtain ⟨count, endless, rfl⟩ := ofText?_eq_error_iff.mp failed
            exact .digits held endless
          · cases failed
          · rename_i cause other unread
            obtain rfl := Except.error.inj failed
            refine .octets asked unread fun family => ?_
            cases cause <;> simp [Mishap.family] at family other
  · intro unexcused
    cases unexcused with
    | path asked => simp [load?, asked]
    | octets present unread other =>
        cases mishap with
        | file error => exact absurd rfl other
        | _ => simp [load?, present, unread]
    | digits held endless =>
        rw [load?_of_text held, ofText?_eq_error_iff]
        exact ⟨_, endless, rfl⟩

/-- How a load ends: a file was applied, or the built-in settings are left. -/
theorem load_ends (files : Files) (location : Location) :
    (∃ fields, HoldsObject files location fields ∧
        load files location = ⟨overlaid fields, some (.ok true)⟩) ∨
      load files location = ⟨builtin, some (.ok false)⟩ ∨
      ∃ mishap, Unexcused files location mishap ∧
        load files location = ⟨builtin, some (.error mishap)⟩ := by
  cases loaded : load? files location with
  | error mishap =>
      exact .inr (.inr ⟨mishap, load?_eq_error_iff.mp loaded, by rw [load, loaded]⟩)
  | ok found =>
      cases found with
      | none => exact .inr (.inl (by rw [load, loaded]))
      | some settings =>
          obtain ⟨fields, holds, rfl⟩ := load?_eq_some_iff.mp loaded
          exact .inl ⟨fields, holds, by rw [load, loaded]⟩

theorem load_of_holdsObject (holds : HoldsObject files location fields) :
    load files location = ⟨overlaid fields, some (.ok true)⟩ := by
  rw [load, load?_eq_some_iff.mpr ⟨fields, holds, rfl⟩]

theorem load_of_unexcused (unexcused : Unexcused files location mishap) :
    load files location = ⟨builtin, some (.error mishap)⟩ := by
  rw [load, load?_eq_error_iff.mpr unexcused]

theorem loaded_true_iff :
    (load files location).loaded = some (.ok true) ↔
      ∃ fields, HoldsObject files location fields := by
  constructor
  · intro applied
    rcases load_ends files location with ⟨fields, holds, _⟩ | ended | ⟨mishap, _, ended⟩
    · exact ⟨fields, holds⟩
    · simp [ended] at applied
    · simp [ended] at applied
  · rintro ⟨fields, holds⟩
    rw [load_of_holdsObject holds]

theorem loaded_error_iff :
    (load files location).loaded = some (.error mishap) ↔ Unexcused files location mishap := by
  constructor
  · intro failed
    rcases load_ends files location with ⟨_, _, ended⟩ | ended | ⟨cause, unexcused, ended⟩
    · simp [ended] at failed
    · simp [ended] at failed
    · obtain rfl : cause = mishap := by simpa [ended] using failed
      exact unexcused
  · intro unexcused
    rw [load_of_unexcused unexcused]

/-- Of an object with the settings of a file each field counts before a built-in one. -/
theorem find?_overlaid (distinct : fields.Distinct) (key : Text) :
    (overlaid fields).find? key = (Fields.find? fields (.text key)).or (builtin.find? key) :=
  Fields.find?_putAll distinct

end ImageStages.Settings
