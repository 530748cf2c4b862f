import ImageStages.Files
import ImageStages.Proofs.Results

namespace ImageStages.Files

open Text (Location)

variable {files written : Files} {path place : List String} {node other : Node}
  {location : Location} {octets : List UInt8} {entries : List (List String × Node)}

/-- The entries with those at the place replaced. -/
theorem find?_replaced :
    (entries.map fun entry => if entry.1 == path then (path, node) else entry).find?
        (·.1 == place) =
      if place = path ∧ entries.any (·.1 == path) then some (path, node)
      else entries.find? (·.1 == place) := by
  induction entries with
  | nil => simp
  | cons entry rest ih =>
      rw [List.map_cons, List.find?_cons, List.find?_cons, ih, List.any_cons]
      grind

theorem find?_put :
    (files.put path node).entries.find? (·.1 == place) =
      if place = path then some (path, node) else files.entries.find? (·.1 == place) := by
  cases present : files.entries.any (·.1 == path) with
  | true => simp only [put, present, if_true, find?_replaced, and_true]
  | false =>
      have absent : files.entries.find? (·.1 == path) = none := by simpa using present
      by_cases same : place = path
      · subst same
        simp [put, present, List.find?_append, absent]
      · have apart : path ≠ place := fun equal => same equal.symm
        simp [put, present, List.find?_append, same, apart]

theorem any_put_isPrefixOf (files : Files) (path : List String) (node : Node)
    (place : List String) :
    ((files.put path node).entries.any fun entry => place.isPrefixOf entry.1) =
      ((files.entries.any fun entry => place.isPrefixOf entry.1) || place.isPrefixOf path) := by
  cases present : files.entries.any (·.1 == path) with
  | false => simp [put, present]
  | true =>
      have keys : ((files.put path node).entries.any fun entry => place.isPrefixOf entry.1) =
          files.entries.any fun entry => place.isPrefixOf entry.1 := by
        simp only [put, present, if_true, List.any_map]
        refine List.any_congr rfl fun entry => ?_
        simp only [Function.comp_apply]
        split
        · rename_i same
          rw [eq_of_beq same]
        · rfl
      obtain ⟨entry, member, same⟩ := List.any_eq_true.mp present
      rw [keys, ← eq_of_beq same, Bool.eq_iff_iff, Bool.or_eq_true]
      refine ⟨.inl, fun known => known.elim id fun below => ?_⟩
      exact List.any_eq_true.mpr ⟨entry, member, below⟩

/-- What is put somewhere is found there, and makes directories of all places on the way
where nothing was. -/
theorem node?_put (files : Files) (path : List String) (node : Node) (place : List String) :
    (files.put path node).node? place =
      if place = path then some node
      else (files.node? place).or (if place.isPrefixOf path then some .directory else none) := by
  unfold node?
  rw [find?_put, any_put_isPrefixOf, ← Bool.or_assoc]
  by_cases same : place = path
  · simp [same]
  · rw [if_neg same, if_neg same]
    -- A place without an entry is a directory if it is given or above an entry, old or new.
    cases files.entries.find? (·.1 == place) with
    | some entry => rfl
    | none =>
        cases (isGiven place || files.entries.any fun entry => place.isPrefixOf entry.1) <;>
          simp

theorem node?_put_self : (files.put path node).node? path = some node := by
  rw [node?_put, if_pos rfl]

theorem node?_put_of_some (found : files.node? place = some other) (apart : place ≠ path) :
    (files.put path node).node? place = some other := by
  rw [node?_put, if_neg apart, found, Option.some_or]

theorem node?_put_of_directory (directory : files.node? place = some .directory)
    (apart : files.node? path ≠ some .directory) :
    (files.put path node).node? place = some .directory := by
  refine node?_put_of_some directory ?_
  rintro rfl
  exact apart directory

/-- Something is at every place on the way to a file. -/
theorem node?_of_above (held : files.node? path = some (.file octets))
    (above : place.isPrefixOf path = true) : files.node? place ≠ none := by
  have stored : files.entries.any (·.1 == path) = true := by
    cases absent : files.entries.any (·.1 == path) with
    | true => rfl
    | false =>
        have none : files.entries.find? (·.1 == path) = none := by simpa using absent
        simp only [node?, none] at held
        split at held <;> cases held
  obtain ⟨entry, member, same⟩ := List.any_eq_true.mp stored
  have known : (files.entries.any fun entry => place.isPrefixOf entry.1) = true :=
    List.any_eq_true.mpr ⟨entry, member, by rwa [eq_of_beq same]⟩
  unfold node?
  rw [known, Bool.or_true, if_pos rfl]
  split <;> simp

/-- A node that replaces a file makes no difference elsewhere. -/
theorem node?_put_of_ne (held : files.node? path = some (.file octets)) (apart : place ≠ path) :
    (files.put path node).node? place = files.node? place := by
  cases found : files.node? place with
  | some other => exact node?_put_of_some found apart
  | none =>
      have below : ¬ place.isPrefixOf path = true := fun above => node?_of_above held above found
      rw [node?_put, if_neg apart, found, if_neg below, Option.none_or]

section Put

variable {names target : List String} (apart : files.node? path ≠ some .directory)

include apart

/-- What leads somewhere still does once a node is put where no directory is. -/
theorem follow_put (followed : files.follow place names = .ok target) :
    (files.put path node).follow place names = .ok target := by
  induction names generalizing place with
  | nil => exact followed
  | cons name rest ih =>
      rw [follow] at followed ⊢
      split at followed
      · cases followed
      · cases followed
      · rename_i directory
        rw [node?_put_of_directory directory apart]
        split at followed
        · cases followed
        · rename_i short
          simp only [short, if_false]
          exact ih followed

theorem resolve_put (resolved : files.resolve location = .ok target) :
    (files.put path node).resolve location = .ok target := by
  unfold resolve at resolved ⊢
  split at resolved
  · cases resolved
  · rename_i short
    rw [if_neg short]
    exact follow_put apart resolved

end Put

theorem stat_ok_iff :
    files.stat location = .ok node ↔
      ∃ path, files.resolve location = .ok path ∧ files.node? path = some node := by
  cases resolved : files.resolve location with
  | error trouble => simp [stat, resolved]
  | ok path => cases found : files.node? path <;> simp [stat, resolved, found]

theorem stat_eq_of_resolve_eq {other : Location}
    (same : files.resolve other = files.resolve location) :
    files.stat other = files.stat location := by
  simp only [stat, same]

/-- The location leads to a file. -/
def IsFile (files : Files) (location : Location) : Prop :=
  ∃ octets, files.stat location = .ok (.file octets)

/-- What is put where the location leads is found there. -/
theorem stat_put (apart : files.node? path ≠ some .directory)
    (resolved : files.resolve location = .ok path) :
    (files.put path node).stat location = .ok node :=
  stat_ok_iff.mpr ⟨path, resolve_put apart resolved, node?_put_self⟩

/-- What a file holds stays when something is put elsewhere. -/
theorem stat_put_of_apart (apart : files.node? path ≠ some .directory)
    (found : files.stat location = .ok (.file octets))
    (elsewhere : files.resolve location ≠ .ok path) :
    (files.put path node).stat location = .ok (.file octets) := by
  obtain ⟨place, resolved, found⟩ := stat_ok_iff.mp found
  refine stat_ok_iff.mpr ⟨place, resolve_put apart resolved, node?_put_of_some found ?_⟩
  rintro rfl
  exact elsewhere resolved

theorem IsFile.put (isFile : files.IsFile location)
    (apart : files.node? path ≠ some .directory) :
    (files.put path (.file octets)).IsFile location := by
  obtain ⟨held, found⟩ := isFile
  by_cases same : files.resolve location = .ok path
  · exact ⟨octets, stat_put apart same⟩
  · exact ⟨held, stat_put_of_apart apart found same⟩

/-- A file can be written at the location. -/
def Accepts (files : Files) (location : Location) : Prop :=
  hasNul location = false ∧
    ∃ path, files.resolve location = .ok path ∧ files.node? path ≠ some .directory

theorem write_ok_iff :
    files.write location octets = .ok written ↔
      hasNul location = false ∧ ∃ path, files.resolve location = .ok path ∧
        files.node? path ≠ some .directory ∧ files.put path (.file octets) = written := by
  cases nul : hasNul location with
  | true => simp [write, nul]
  | false =>
      cases resolved : files.resolve location with
      | error trouble => simp [write, nul, resolved]
      | ok path =>
          cases found : files.node? path with
          | none => simp [write, nul, resolved, found]
          | some node => cases node <;> simp [write, nul, resolved, found]

theorem write_succeeds_iff :
    (∃ written, files.write location octets = .ok written) ↔ files.Accepts location := by
  simp only [write_ok_iff, Accepts]
  constructor
  · rintro ⟨_, plain, path, resolved, apart, _⟩
    exact ⟨plain, path, resolved, apart⟩
  · rintro ⟨plain, path, resolved, apart⟩
    exact ⟨_, plain, path, resolved, apart, rfl⟩

section Write

variable (wrote : files.write location octets = .ok written)

include wrote

/-- What was written is what every location holds that leads there. -/
theorem stat_of_write_same {other : Location}
    (same : files.resolve location = files.resolve other) :
    written.stat other = .ok (.file octets) := by
  obtain ⟨_, path, resolved, apart, rfl⟩ := write_ok_iff.mp wrote
  exact stat_put apart (same.symm.trans resolved)

theorem stat_of_write : written.stat location = .ok (.file octets) :=
  stat_of_write_same wrote rfl

theorem stat_of_write_apart {other : Location} {held : List UInt8}
    (found : files.stat other = .ok (.file held))
    (elsewhere : files.resolve location ≠ files.resolve other) :
    written.stat other = .ok (.file held) := by
  obtain ⟨_, path, resolved, apart, rfl⟩ := write_ok_iff.mp wrote
  exact stat_put_of_apart apart found fun led => elsewhere (resolved.trans led.symm)

theorem resolve_of_write {other : Location} (resolved : files.resolve other = .ok place) :
    written.resolve other = .ok place := by
  obtain ⟨_, path, _, apart, rfl⟩ := write_ok_iff.mp wrote
  exact resolve_put apart resolved

theorem IsFile.write {other : Location} (isFile : files.IsFile other) : written.IsFile other := by
  obtain ⟨_, path, _, apart, rfl⟩ := write_ok_iff.mp wrote
  exact isFile.put apart

end Write

/-- The location leads elsewhere than each of the others. -/
def Apart (files : Files) (others : List Location) (location : Location) : Prop :=
  ∀ other ∈ others, files.resolve other ≠ files.resolve location

/-- Nothing differs but what the files at the locations hold. -/
structure Rewritten (locations : List Location) (before after : Files) : Prop where
  resolve : ∀ location, after.resolve location = before.resolve location
  stat : ∀ location, before.Apart locations location →
    after.stat location = before.stat location
  isFile : ∀ location, before.IsFile location → after.IsFile location

namespace Rewritten

variable {locations others : List Location} {before between after : Files}

theorem refl : Rewritten locations files files :=
  ⟨fun _ => rfl, fun _ _ => rfl, fun _ => id⟩

theorem readText (rewritten : Rewritten locations before after)
    (elsewhere : before.Apart locations location) :
    after.readText location = before.readText location := by
  rw [Files.readText, Files.readText, rewritten.stat location elsewhere]

theorem apart (rewritten : Rewritten locations before after)
    (elsewhere : before.Apart locations location) : after.Apart locations location := by
  intro other member
  rw [rewritten.resolve, rewritten.resolve]
  exact elsewhere other member

theorem trans (first : Rewritten locations before between)
    (second : Rewritten locations between after) : Rewritten locations before after where
  resolve location := (second.resolve location).trans (first.resolve location)
  stat location elsewhere :=
    (second.stat location (first.apart elsewhere)).trans (first.stat location elsewhere)
  isFile location held := second.isFile location (first.isFile location held)

theorem mono (rewritten : Rewritten locations before after)
    (subset : ∀ location ∈ locations, location ∈ others) : Rewritten others before after :=
  ⟨rewritten.resolve,
    fun location apart => rewritten.stat location fun other member =>
      apart other (subset other member),
    rewritten.isFile⟩

/-- A location that can be written still can be, also where it is one of those. -/
theorem accepts (rewritten : Rewritten locations before after)
    (held : ∀ location ∈ locations, before.IsFile location)
    (accepts : before.Accepts location) : after.Accepts location := by
  obtain ⟨plain, path, resolved, apart⟩ := accepts
  have resolved' := (rewritten.resolve location).trans resolved
  refine ⟨plain, path, resolved', fun directory => ?_⟩
  have found := stat_ok_iff.mpr ⟨path, resolved', directory⟩
  by_cases elsewhere : before.Apart locations location
  · rw [rewritten.stat location elsewhere] at found
    obtain ⟨place, led, found⟩ := stat_ok_iff.mp found
    obtain rfl := Except.ok.inj (resolved.symm.trans led)
    exact apart found
  · simp only [Apart, not_forall, not_not] at elsewhere
    obtain ⟨other, member, same⟩ := elsewhere
    obtain ⟨octets, file⟩ := rewritten.isFile other (held other member)
    have same' : after.resolve other = after.resolve location := by
      rw [rewritten.resolve, rewritten.resolve, same]
    rw [stat_eq_of_resolve_eq same', found] at file
    cases file

end Rewritten

/-- Where a file is replaced, everything leads where it did. -/
theorem follow_put_of_file {names : List String} {before : List UInt8}
    (held : files.node? path = some (.file before)) :
    (files.put path (.file octets)).follow place names = files.follow place names := by
  induction names generalizing place with
  | nil => rfl
  | cons name rest ih =>
      rw [follow, follow, ih]
      by_cases same : place = path
      · rw [same, node?_put_self, held]
      · rw [node?_put_of_ne held same]

theorem rewritten_put {before : List UInt8} (resolved : files.resolve location = .ok path)
    (held : files.node? path = some (.file before)) :
    Rewritten [location] files (files.put path (.file octets)) := by
  have resolve (other : Location) :
      (files.put path (.file octets)).resolve other = files.resolve other := by
    simp only [Files.resolve, follow_put_of_file held]
  refine ⟨resolve, fun other apart => ?_, fun other isFile => isFile.put (by simp [held])⟩
  cases led : files.resolve other with
  | error trouble => simp [Files.stat, resolve, led]
  | ok place =>
      have elsewhere : place ≠ path := by
        rintro rfl
        exact apart location (by simp) (resolved.trans led.symm)
      simp [Files.stat, resolve, led, node?_put_of_ne held elsewhere]

end ImageStages.Files
