import ImageStages.Command.Run
import ImageStages.Proofs.Files

namespace ImageStages.Command

open Text (Location)

variable {directory : Option Location} {files opened after : Files} {location other : Location}
  {entries : List Entry} {octets : List UInt8}

/-- The files of a journal, if there is one. -/
def journalFiles : Option Location → List Location
  | none => []
  | some directory => [directory.child operationsFile, directory.child recordsFile]

/-- The files of the journal are there. -/
def Opened (directory : Option Location) (files : Files) : Prop :=
  ∀ location ∈ journalFiles directory, files.IsFile location

theorem append_eq_put (files : Files) (path : List String) (octets : List UInt8) :
    ∃ all, files.append path octets = files.put path (.file all) := by
  unfold Files.append
  split <;> exact ⟨_, rfl⟩

theorem appendAt_ok_iff :
    appendAt files location octets = .ok after ↔
      ∃ path, files.resolve location = .ok path ∧ files.node? path ≠ some .directory ∧
        files.append path octets = after := by
  cases resolved : files.resolve location with
  | error trouble => simp [appendAt, resolved]
  | ok path =>
      cases found : files.node? path with
      | none => simp [appendAt, resolved, found]
      | some node => cases node <;> simp [appendAt, resolved, found]

section Added

variable (added : appendAt files location octets = .ok after)

include added

theorem isFile_of_appendAt : after.IsFile location := by
  obtain ⟨path, resolved, apart, rfl⟩ := appendAt_ok_iff.mp added
  obtain ⟨all, same⟩ := append_eq_put files path octets
  rw [same]
  exact ⟨all, Files.stat_put apart resolved⟩

theorem isFile_appendAt (isFile : files.IsFile other) : after.IsFile other := by
  obtain ⟨path, _, apart, rfl⟩ := appendAt_ok_iff.mp added
  obtain ⟨all, same⟩ := append_eq_put files path octets
  rw [same]
  exact isFile.put apart

end Added

theorem appendAt_exists (isFile : files.IsFile location) (octets : List UInt8) :
    ∃ after, appendAt files location octets = .ok after ∧
      Files.Rewritten [location] files after := by
  obtain ⟨before, found⟩ := isFile
  obtain ⟨path, resolved, held⟩ := Files.stat_ok_iff.mp found
  obtain ⟨all, same⟩ := append_eq_put files path octets
  refine ⟨_, appendAt_ok_iff.mpr ⟨path, resolved, by simp [held], rfl⟩, ?_⟩
  rw [same]
  exact Files.rewritten_put resolved held

/-- Entries can be added to a journal that is open. -/
theorem keep_exists (here : Opened directory files) (entries : List Entry) :
    ∃ after, keep directory files entries = .ok after ∧
      Files.Rewritten (journalFiles directory) files after := by
  cases directory with
  | none => exact ⟨files, rfl, .refl⟩
  | some directory =>
      have operations := here (directory.child operationsFile) (by simp [journalFiles])
      have records := here (directory.child recordsFile) (by simp [journalFiles])
      obtain ⟨between, first, rewritten⟩ := appendAt_exists operations _
      obtain ⟨after, second, rewritten'⟩ := appendAt_exists (rewritten.isFile _ records) _
      exact ⟨after, Except.bind_eq_ok_iff.mpr ⟨between, first, second⟩,
        (rewritten.mono (by simp [journalFiles])).trans
          (rewritten'.mono (by simp [journalFiles]))⟩

theorem opened_of_keep (kept : keep directory files entries = .ok after) :
    Opened directory after := by
  cases directory with
  | none => simp [Opened, journalFiles]
  | some directory =>
      obtain ⟨between, first, second⟩ := Except.bind_eq_ok_iff.mp kept
      simp only [Opened, journalFiles, List.forall_mem_cons]
      exact ⟨isFile_appendAt second (isFile_of_appendAt first), isFile_of_appendAt second,
        by simp⟩

theorem opened_of_openJournal (opens : openJournal directory files = .ok opened) :
    Opened directory opened := by
  cases directory with
  | none => simp [Opened, journalFiles]
  | some directory =>
      obtain ⟨made, _, kept⟩ := Except.bind_eq_ok_iff.mp opens
      exact opened_of_keep kept

theorem Opened.rewritten (here : Opened directory files)
    (rewritten : Files.Rewritten (journalFiles directory) files after) :
    Opened directory after :=
  fun location member => rewritten.isFile location (here location member)

theorem Opened.write {octets : List UInt8} (here : Opened directory files)
    (wrote : files.write location octets = .ok after) : Opened directory after :=
  fun other member => (here other member).write wrote

/-- A location that is none of the journal's files is none of them after a write. -/
theorem Opened.apart_of_write {octets : List UInt8} (here : Opened directory files)
    (apart : files.Apart (journalFiles directory) location)
    (wrote : files.write location octets = .ok after) :
    after.Apart (journalFiles directory) location := by
  intro other member same
  obtain ⟨held, found⟩ := here other member
  obtain ⟨place, led, _⟩ := Files.stat_ok_iff.mp found
  obtain ⟨_, path, resolved, _⟩ := Files.write_ok_iff.mp wrote
  rw [Files.resolve_of_write wrote led, Files.resolve_of_write wrote resolved] at same
  exact apart other member (led.trans (same.trans resolved.symm))

end ImageStages.Command
