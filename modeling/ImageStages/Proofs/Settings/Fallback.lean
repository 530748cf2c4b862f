import ImageStages.Proofs.Files.Contents
import ImageStages.Proofs.Settings.Loading

namespace ImageStages.Settings

/-! Settings files that fall back to the built-in settings.

A file that is missing, is a directory or says something else than an object leaves the
built-in settings in place, and so does one that breaks the load off.  The load returns just
where nothing breaks it off. -/

open Text (Location)

variable {files : Files} {location : Location} {octets : List UInt8} {fields : Fields}

theorem holdsObject_iff :
    HoldsObject files location fields ↔
      ∃ octets, files.Contains location octets ∧ Files.IsDocument octets (.object fields) :=
  Files.document_iff

theorem unexcused_iff {mishap : Mishap} :
    Unexcused files location mishap ↔
      files.exists? location = .error mishap ∨
        files.exists? location = .ok true ∧ files.BreaksOff location mishap := by
  constructor
  · intro unexcused
    cases unexcused with
    | path asked => exact .inl asked
    | octets present unread other => exact .inr ⟨present, .octets unread other⟩
    | digits held endless => exact .inr ⟨exists?_of_readText held, .digits held endless⟩
  · rintro (asked | ⟨present, breaks⟩)
    · exact .path asked
    · cases breaks with
      | octets unread other => exact .octets present unread other
      | digits held endless => exact .digits held endless

/-- The path has a name that is too long, or leads to octets that cannot be read. -/
def Escapes (files : Files) (location : Location) : Prop :=
  Files.hasNul location = false ∧ files.stat location = .error .nameTooLong ∨
    ∃ octets, files.Contains location octets ∧ Files.Unread octets

theorem exists?_of_contains (contains : files.Contains location octets) :
    files.exists? location = .ok true := by
  simp [Files.exists?, contains.1, contains.2]

theorem escapes_iff : Escapes files location ↔ ∃ mishap, Unexcused files location mishap := by
  simp only [unexcused_iff, exists_or, Files.exists?_error_iff, exists_and_left,
    Files.breaksOff_iff, Files.Unreadable, Escapes]
  refine or_congr_right ⟨fun ⟨octets, contains, unread⟩ => ?_, fun ⟨present, breaks⟩ => ?_⟩
  · exact ⟨exists?_of_contains contains, .inr ⟨octets, contains, unread⟩⟩
  · refine breaks.resolve_left fun unnamed => ?_
    simp [Files.exists?, unnamed] at present

theorem escapes_iff_load? :
    Escapes files location ↔ ∃ mishap, load? files location = .error mishap := by
  simp only [escapes_iff, load?_eq_error_iff]

/-- What a load comes to by what is found at its location. -/
structure FallsBack (files : Files) (location : Location) : Prop where
  returns : (∃ applied, (load files location).loaded = some (.ok applied)) ↔
    ¬ Escapes files location
  applied : (load files location).loaded = some (.ok true) ↔
    ∃ octets fields, files.Contains location octets ∧ Files.IsDocument octets (.object fields)
  unapplied : files.Objectless location →
    (load files location).settings = builtin ∧
      ((load files location).loaded = some (.ok false) ↔ ¬ Escapes files location)

theorem load_returns_iff :
    (∃ applied, (load files location).loaded = some (.ok applied)) ↔
      ¬ Escapes files location := by
  rw [escapes_iff]
  simp only [← loaded_error_iff]
  rcases load_ends files location with ⟨_, _, ended⟩ | ended | ⟨_, _, ended⟩ <;> simp [ended]

/-- A load returns just where neither the path nor the octets of its file escape it.  Where
there is no object it then returns that none was applied, and leaves the built-in settings. -/
theorem load_fallsBack (files : Files) (location : Location) : FallsBack files location where
  returns := load_returns_iff
  applied := by
    simp only [loaded_true_iff, holdsObject_iff]
    exact exists_comm
  unapplied none := by
    have objectless : ¬ ∃ fields, HoldsObject files location fields := by
      simp only [holdsObject_iff]
      rintro ⟨fields, octets, contains, object⟩
      exact none octets fields contains object
    rw [← load_returns_iff]
    rcases load_ends files location with ⟨fields, holds, _⟩ | ended | ⟨_, _, ended⟩
    · exact absurd ⟨fields, holds⟩ objectless
    · simp [ended]
    · simp [ended]

/-- A settings file of one octet, which starts no character. -/
def garbledFiles : Files :=
  ⟨[(["settings.json"], .file [0xff])]⟩

theorem garbledFiles_contains :
    garbledFiles.Contains (Location.ofText "settings.json") [0xff] :=
  ⟨by decide, Except.eq_ok_of_toOption (by decide)⟩

/-- The load is broken off by an octet that starts no character. -/
theorem load_garbled :
    garbledFiles.Contains (Location.ofText "settings.json") [0xff] ∧
      load garbledFiles (Location.ofText "settings.json") =
        ⟨builtin, some (.error (.encoding ⟨.invalidStart, 0xff, 0, 1⟩))⟩ := by
  have unread : garbledFiles.readText (Location.ofText "settings.json") =
      .error (.encoding ⟨.invalidStart, 0xff, 0, 1⟩) := by
    rw [Files.readText_of_few garbledFiles_contains (by decide)]
    rfl
  exact ⟨garbledFiles_contains, load_of_unexcused
    (.octets (exists?_of_contains garbledFiles_contains) unread (by decide))⟩

end ImageStages.Settings
