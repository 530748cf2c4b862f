import ImageStages.Document.Reader
import ImageStages.Proofs.Files
import ImageStages.Proofs.Text.Utf8

namespace ImageStages

open Text (Location)

variable {files : Files} {location : Location} {octets : List UInt8} {s : List Char}
  {mishap : Mishap} {document : Document} {trouble : FileTrouble}

namespace Files

/-- The location can be named, and leads to a file with these octets. -/
def Contains (files : Files) (location : Location) (octets : List UInt8) : Prop :=
  hasNul location = false ∧ files.stat location = .ok (.file octets)

theorem Contains.unique {held : List UInt8} (contains : files.Contains location octets)
    (again : files.Contains location held) : held = octets := by
  have same := again.2.symm.trans contains.2
  cases same
  rfl

theorem Contains.exists_iff {told : List UInt8 → Prop} (contains : files.Contains location octets) :
    (∃ held, files.Contains location held ∧ told held) ↔ told octets := by
  constructor
  · rintro ⟨held, again, holds⟩
    rwa [← contains.unique again]
  · intro holds
    exact ⟨octets, contains, holds⟩

/-- The octets are those of a text, which is read with its line breaks unified. -/
def ReadsAs (octets : List UInt8) (s : List Char) : Prop :=
  octets.length ≤ octetLimit ∧
    ∃ written, Text.encodeUtf8 written = octets ∧ Text.unifyLineBreaks written = s

/-- There are too many octets, or they are those of no text. -/
def Textless (octets : List UInt8) : Prop :=
  octetLimit < octets.length ∨ ∀ written, Text.encodeUtf8 written ≠ octets

section Troubles

/-- What a path can lead to instead of a place. -/
def OffPath (trouble : FileTrouble) : Prop :=
  trouble = .missing ∨ trouble = .notDirectory ∨ trouble = .nameTooLong

theorem offPath_of_follow {place names : List String}
    (failed : files.follow place names = .error trouble) : OffPath trouble := by
  induction names generalizing place with
  | nil => cases failed
  | cons name rest ih =>
      rw [follow] at failed
      split at failed
      · exact .inl (Except.error.inj failed).symm
      · exact .inr (.inl (Except.error.inj failed).symm)
      · split at failed
        · exact .inr (.inr (Except.error.inj failed).symm)
        · exact ih failed

theorem offPath_of_stat (failed : files.stat location = .error trouble) : OffPath trouble := by
  rcases Except.bind_eq_error_iff.mp failed with unresolved | ⟨path, _, absent⟩
  · rw [resolve] at unresolved
    split at unresolved
    · exact .inr (.inr (Except.error.inj unresolved).symm)
    · exact offPath_of_follow unresolved
  · split at absent
    · cases absent
    · exact .inl (Except.error.inj absent).symm

theorem exists?_error_iff :
    (∃ mishap, files.exists? location = .error mishap) ↔
      hasNul location = false ∧ files.stat location = .error .nameTooLong := by
  cases plain : hasNul location with
  | true => simp [exists?, plain]
  | false =>
      cases found : files.stat location with
      | ok node => simp [exists?, plain, found]
      | error trouble =>
          rcases offPath_of_stat found with rfl | rfl | rfl <;> simp [exists?, plain, found]

end Troubles

theorem readText_of_many (contains : files.Contains location octets)
    (many : octetLimit < octets.length) :
    ∃ reason, files.readText location = .error (.outOfRange reason) := by
  obtain ⟨plain, found⟩ := contains
  simp only [readText, plain, found, many, Bool.false_eq_true, if_false, if_true]
  exact ⟨_, rfl⟩

theorem readText_of_few (contains : files.Contains location octets)
    (few : octets.length ≤ octetLimit) :
    files.readText location =
      ((Text.decodeUtf8 octets).mapError Mishap.encoding).map Text.unifyLineBreaks := by
  obtain ⟨plain, found⟩ := contains
  simp only [readText, plain, found, Nat.not_lt.mpr few, Bool.false_eq_true, if_false]
  cases Text.decodeUtf8 octets <;> rfl

/-- A location leads to a file, or nothing is read for the lack of one. -/
theorem readText_cases (files : Files) (location : Location) :
    (∃ octets, files.Contains location octets) ∨
      (hasNul location = true ∧ files.readText location = .error .nulInPath) ∨
      hasNul location = false ∧ (∀ octets, ¬ files.Contains location octets) ∧
        ∃ error, files.readText location = .error (.file error) := by
  cases plain : hasNul location with
  | true => exact .inr (.inl ⟨rfl, by simp [readText, plain]⟩)
  | false =>
      cases found : files.stat location with
      | error trouble => exact .inr (.inr ⟨rfl, by simp [Contains, found], by
          simp [readText, plain, found, refusal]⟩)
      | ok node =>
          cases node with
          | file octets => exact .inl ⟨octets, plain, found⟩
          | directory => exact .inr (.inr ⟨rfl, by simp [Contains, found], by
              simp [readText, plain, found, refusal]⟩)

theorem readText_ok_iff :
    files.readText location = .ok s ↔
      ∃ octets, files.Contains location octets ∧ ReadsAs octets s := by
  rcases readText_cases files location with
    ⟨octets, contains⟩ | ⟨unnamed, failed⟩ | ⟨_, none, error, failed⟩
  · rw [contains.exists_iff, ReadsAs]
    rcases Nat.lt_or_ge octetLimit octets.length with many | few
    · obtain ⟨reason, failed⟩ := readText_of_many contains many
      simp [failed, Nat.not_le.mpr many]
    · simp [readText_of_few contains few, few, Text.decodeUtf8_ok_iff]
  · simp [failed, Contains, unnamed]
  · simp [failed, none]

/-- Apart from trouble on the way to a file, a path with a NUL has no text, and so have octets of
none. -/
theorem readText_strays_iff :
    (∃ mishap, files.readText location = .error mishap ∧ mishap.family ≠ .file) ↔
      hasNul location = true ∨ ∃ octets, files.Contains location octets ∧ Textless octets := by
  rcases readText_cases files location with
    ⟨octets, contains⟩ | ⟨unnamed, failed⟩ | ⟨named, none, error, failed⟩
  · rw [contains.exists_iff, contains.1, Textless, ← Text.decodeUtf8_fails_iff]
    rcases Nat.lt_or_ge octetLimit octets.length with many | few
    · obtain ⟨reason, failed⟩ := readText_of_many contains many
      simp [failed, many, Mishap.family]
    · rw [readText_of_few contains few]
      cases Text.decodeUtf8 octets <;> simp [Nat.not_lt.mpr few, Mishap.family]
  · simp [failed, unnamed, Mishap.family]
  · simp [failed, named, none, Mishap.family]

/-- The octets are those of a text that reads as the document. -/
def IsDocument (octets : List UInt8) (document : Document) : Prop :=
  ∃ s, ReadsAs octets s ∧ Json.read s = .ok document

/-- The octets are no text, or that of a number with too many digits. -/
inductive Unread (octets : List UInt8) : Prop where
  | textless (foreign : Textless octets)
  | digits {s : List Char} {count : Nat} (text : ReadsAs octets s)
      (endless : Json.read s = .error (.tooManyDigits count))

theorem ReadsAs.unique {other : List Char} (reads : ReadsAs octets s)
    (again : ReadsAs octets other) : s = other := by
  obtain ⟨_, written, same, rfl⟩ := reads
  obtain ⟨_, written', same', rfl⟩ := again
  have decoded := (Text.decodeUtf8_ok_iff.mpr same).symm.trans (Text.decodeUtf8_ok_iff.mpr same')
  rw [Except.ok.inj decoded]

/-- Octets that cannot be read are those of no document. -/
theorem Unread.not_isDocument (unread : Unread octets) : ¬ IsDocument octets document := by
  rintro ⟨s, reads, read⟩
  cases unread with
  | textless foreign =>
      obtain ⟨few, written, same, _⟩ := reads
      rcases foreign with many | foreign
      · exact absurd few (Nat.not_le.mpr many)
      · exact foreign written same
  | digits text endless =>
      rw [reads.unique text, endless] at read
      cases read

/-- The location leads to no file that says an object. -/
def Objectless (files : Files) (location : Location) : Prop :=
  ∀ octets fields, files.Contains location octets → ¬ IsDocument octets (.object fields)

theorem document_iff :
    (∃ s, files.readText location = .ok s ∧ Json.read s = .ok document) ↔
      ∃ octets, files.Contains location octets ∧ IsDocument octets document := by
  simp only [readText_ok_iff, IsDocument]
  constructor
  · rintro ⟨s, ⟨octets, contains, reads⟩, read⟩
    exact ⟨octets, contains, s, reads, read⟩
  · rintro ⟨octets, contains, s, reads, read⟩
    exact ⟨s, ⟨octets, contains, reads⟩, read⟩

/-- What breaks off the reading of a document, other than a missing file or bad syntax. -/
inductive BreaksOff (files : Files) (location : Location) : Mishap → Prop where
  | octets {mishap : Mishap} (unread : files.readText location = .error mishap)
      (other : mishap.family ≠ .file) : BreaksOff files location mishap
  | digits {s : List Char} {count : Nat} (held : files.readText location = .ok s)
      (endless : Json.read s = .error (.tooManyDigits count)) :
      BreaksOff files location (.tooManyDigits count)

/-- The location is no name, or leads to octets that cannot be read. -/
def Unreadable (files : Files) (location : Location) : Prop :=
  hasNul location = true ∨ ∃ octets, files.Contains location octets ∧ Unread octets

theorem breaksOff_iff :
    (∃ mishap, files.BreaksOff location mishap) ↔ files.Unreadable location := by
  constructor
  · rintro ⟨mishap, breaks⟩
    cases breaks with
    | octets unread other =>
        rcases readText_strays_iff.mp ⟨mishap, unread, other⟩ with
          unnamed | ⟨octets, contains, foreign⟩
        · exact .inl unnamed
        · exact .inr ⟨octets, contains, .textless foreign⟩
    | digits held endless =>
        obtain ⟨octets, contains, text⟩ := readText_ok_iff.mp held
        exact .inr ⟨octets, contains, .digits text endless⟩
  · rintro (unnamed | ⟨octets, contains, foreign | ⟨text, endless⟩⟩)
    · obtain ⟨mishap, unread, other⟩ := readText_strays_iff.mpr (.inl unnamed)
      exact ⟨mishap, .octets unread other⟩
    · obtain ⟨mishap, unread, other⟩ := readText_strays_iff.mpr (.inr ⟨octets, contains, foreign⟩)
      exact ⟨mishap, .octets unread other⟩
    · exact ⟨_, .digits (readText_ok_iff.mpr ⟨octets, contains, text⟩) endless⟩

end Files

end ImageStages
