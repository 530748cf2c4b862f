import ImageStages.Proofs.Command.Journal
import ImageStages.Proofs.Files.SameBut

namespace ImageStages

namespace Files

open Text (Location)

variable {files : Files} {place target : List String} {location : Location} {name : String}

theorem follow_append (files : Files) (place names : List String) (name : String) :
    files.follow place (names ++ [name]) = .ok target →
      ∃ middle, target = next middle name := by
  induction names generalizing place with
  | nil =>
      intro followed
      simp only [List.nil_append, follow] at followed
      split at followed
      · cases followed
      · cases followed
      · split at followed
        · cases followed
        · exact ⟨place, (Except.ok.inj followed).symm⟩
  | cons first rest ih =>
      intro followed
      rw [List.cons_append, follow] at followed
      split at followed
      · cases followed
      · cases followed
      · split at followed
        · cases followed
        · exact ih _ followed

/-- A location of a name leads to a place of that name. -/
theorem resolve_child (named : name ≠ parent)
    (resolved : files.resolve (location.child name) = .ok target) :
    ∃ above, target = above ++ [name] := by
  unfold resolve at resolved
  split at resolved
  · cases resolved
  · obtain ⟨middle, reached⟩ := follow_append files _ location.names name resolved
    rw [next, if_neg named] at reached
    exact ⟨middle, reached⟩

end Files

namespace Command

open Text (Location)

/-- The files of the journal. -/
inductive Log where
  | operations | records
deriving DecidableEq

namespace Log

def name : Log → String
  | .operations => operationsFile
  | .records => recordsFile

/-- How a file writes a record. -/
def line : Log → Record → Text
  | .operations => Record.line
  | .records => Record.documentLine

def location (log : Log) (directory : Location) : Location :=
  directory.child log.name

/-- What entries add to a file. -/
def octets (log : Log) (entries : List Entry) : List UInt8 :=
  encodeLines (((entries.map (·.record)).filter (·.isKept)).map log.line)

@[simp] theorem octets_nil (log : Log) : log.octets [] = [] := rfl

@[simp] theorem octets_append (log : Log) (entries others : List Entry) :
    log.octets (entries ++ others) = log.octets entries ++ log.octets others := by
  simp [octets, encodeLines]

variable {files : Files} {directory : Location}

theorem location_mem (log : Log) (directory : Location) :
    log.location directory ∈ journalFiles (some directory) := by
  cases log <;> simp [journalFiles, location, name]

/-- The files lead to different places. -/
theorem resolve_ne {log other : Log} (apart : log ≠ other) {path : List String}
    (resolved : files.resolve (log.location directory) = .ok path) :
    files.resolve (other.location directory) ≠ .ok path := by
  intro also
  have named (log : Log) : log.name ≠ Files.parent := by cases log <;> decide
  obtain ⟨above, reached⟩ := Files.resolve_child (named log) resolved
  obtain ⟨aside, same⟩ := Files.resolve_child (named other) also
  have names : log.name = other.name := by
    rw [reached] at same
    exact List.singleton_inj.mp (List.append_inj_right' same rfl)
  cases log <;> cases other <;> first | exact apart rfl | exact absurd names (by decide)

end Log

variable {directory : Location} {journal : Option Location} {files left right after : Files}
  {location other : Location} {entries others : List Entry} {octets before : List UInt8}

theorem stat_of_appendAt (added : appendAt files location octets = .ok after)
    (held : files.stat location = .ok (.file before)) :
    after.stat location = .ok (.file (before ++ octets)) := by
  obtain ⟨path, resolved, apart, rfl⟩ := appendAt_ok_iff.mp added
  obtain ⟨place, led, found⟩ := Files.stat_ok_iff.mp held
  obtain rfl := Except.ok.inj (resolved.symm.trans led)
  rw [Files.append, found]
  exact Files.stat_put apart resolved

theorem stat_appendAt_of_apart (added : appendAt files location octets = .ok after)
    (held : files.stat other = .ok (.file before))
    (elsewhere : ∀ {path}, files.resolve location = .ok path → files.resolve other ≠ .ok path) :
    after.stat other = .ok (.file before) := by
  obtain ⟨path, resolved, apart, rfl⟩ := appendAt_ok_iff.mp added
  obtain ⟨all, same⟩ := append_eq_put files path octets
  rw [same]
  exact Files.stat_put_of_apart apart held (elsewhere resolved)

/-- What is added to one of the files of two journals makes no other difference. -/
theorem appendAt_sameBut {locations : List Location} {added : List UInt8} {written : Files}
    (same : Files.SameBut locations left right) (member : location ∈ locations)
    (first : appendAt left location octets = .ok after)
    (also : appendAt right location added = .ok written) :
    Files.SameBut locations after written := by
  obtain ⟨path, resolved, apart, rfl⟩ := appendAt_ok_iff.mp first
  obtain ⟨place, led, _, rfl⟩ := appendAt_ok_iff.mp also
  obtain rfl := Except.ok.inj (resolved.symm.trans ((same.resolve location).trans led))
  obtain ⟨all, put⟩ := append_eq_put left path octets
  obtain ⟨every, puts⟩ := append_eq_put right path added
  rw [put, puts]
  exact same.put apart (.inr ⟨⟨location, member, resolved⟩, ⟨all, rfl⟩, every, rfl⟩)

/-- Entries are added after what a file held. -/
theorem stat_of_keep {log : Log} (kept : keep (some directory) files entries = .ok after)
    (held : files.stat (log.location directory) = .ok (.file before)) :
    after.stat (log.location directory) = .ok (.file (before ++ log.octets entries)) := by
  obtain ⟨between, first, second⟩ := Except.bind_eq_ok_iff.mp kept
  cases log with
  | operations =>
      refine stat_appendAt_of_apart second (stat_of_appendAt first held) fun resolved => ?_
      exact Log.resolve_ne (show Log.records ≠ .operations by decide) resolved
  | records =>
      refine stat_of_appendAt second (stat_appendAt_of_apart first held fun resolved => ?_)
      exact Log.resolve_ne (show Log.operations ≠ .records by decide) resolved

theorem keep_sameBut {written : Files} (same : Files.SameBut (journalFiles journal) left right)
    (kept : keep journal left entries = .ok after)
    (also : keep journal right others = .ok written) :
    Files.SameBut (journalFiles journal) after written := by
  cases journal with
  | none =>
      obtain rfl := Except.ok.inj kept
      obtain rfl := Except.ok.inj also
      exact same
  | some directory =>
      obtain ⟨_, first, second⟩ := Except.bind_eq_ok_iff.mp kept
      obtain ⟨_, other, last⟩ := Except.bind_eq_ok_iff.mp also
      have between := appendAt_sameBut same (Log.location_mem .operations directory) first other
      exact appendAt_sameBut between (Log.location_mem .records directory) second last

end Command

end ImageStages
