import ImageStages.Proofs.Layout.Devices
import ImageStages.Proofs.Text.Segments

namespace ImageStages.Layout

variable {path : Text}

/-- The last segment of the path that is not empty. -/
def finalSegment? (path : Text) : Option Text :=
  (Text.namedSegments (.char '/') path).getLast?

def OnlySlashes (path : Text) : Prop :=
  ∀ c ∈ path, c = '/'

def slashes (count : Nat) : Text :=
  List.replicate count '/'

/-- The name is the last segment of the mountpoint, or "root" where there is none. -/
structure NamedFor (mountpoint name : Text) : Prop where
  filled : name ≠ []
  slashless : .char '/' ∉ name
  root : name = "root" ↔
    OnlySlashes mountpoint ∨ finalSegment? mountpoint = some (Text.ofString "root")
  segment : ¬ OnlySlashes mountpoint → finalSegment? mountpoint = some name

/-- The last segments of two paths are the same or both missing, or one is missing and the
other is "root". -/
def Coincide (left right : Option Text) : Prop :=
  left = right ∨ (left = none ∧ right = some (Text.ofString "root")) ∨
    (left = some (Text.ofString "root") ∧ right = none)

theorem finalSegment?_eq_none_iff : finalSegment? path = none ↔ OnlySlashes path := by
  rw [finalSegment?, List.getLast?_eq_none_iff, Text.namedSegments_eq_nil_iff, OnlySlashes]

theorem deviceName_eq (mountpoint : Text) :
    deviceName mountpoint = (finalSegment? mountpoint).getD "root" := by
  rw [deviceName, Text.lastSegment_eq_getLast, finalSegment?]
  cases given : (Text.namedSegments (.char '/') mountpoint).getLast? with
  | none => rfl
  | some segment =>
      have filled := Text.ne_nil_of_mem_namedSegments (List.mem_of_getLast? given)
      simp [filled]

theorem deviceName_append_slashes (mountpoint : Text) (count : Nat) :
    deviceName (mountpoint ++ slashes count) = deviceName mountpoint := by
  rw [deviceName, deviceName, slashes, Text.lastSegment_append_slashes]

theorem deviceName_filled (mountpoint : Text) : deviceName mountpoint ≠ [] := by
  rw [deviceName]
  split
  · decide
  · rename_i filled
    simpa using filled

theorem slash_notMem_deviceName (mountpoint : Text) : .char '/' ∉ deviceName mountpoint := by
  rw [deviceName]
  split
  · decide
  · exact Text.slash_notMem_lastSegment _

theorem deviceName_namedFor (mountpoint : Text) :
    NamedFor mountpoint (deviceName mountpoint) := by
  refine ⟨deviceName_filled mountpoint, slash_notMem_deviceName mountpoint, ?_, ?_⟩
  · rw [deviceName_eq, ← finalSegment?_eq_none_iff]
    cases finalSegment? mountpoint <;> simp
  · intro named
    rw [← finalSegment?_eq_none_iff] at named
    obtain ⟨segment, given⟩ := Option.ne_none_iff_exists'.mp named
    rw [deviceName_eq, given, Option.getD_some]

theorem deviceNameOf_eq_iff (left right : Text) :
    deviceNameOf (.text left) = deviceNameOf (.text right) ↔
      Coincide (finalSegment? left) (finalSegment? right) := by
  rw [deviceNameOf, deviceNameOf, Except.ok.injEq, deviceName_eq, deviceName_eq, Coincide]
  cases finalSegment? left <;> cases finalSegment? right <;> simp [eq_comm]

/-- The partitions of a table share no device exactly when no two last segments coincide. -/
theorem distinctDeviceNames_iff {table : PartitionTable} {places : List Text}
    (spelled : (mountable table.partitions).map (·.2.mountpoint) = places.map .text) :
    DistinctDeviceNames table ↔ places.Pairwise fun left right =>
      ¬ Coincide (finalSegment? left) (finalSegment? right) := by
  have named : (mountable table.partitions).map (fun entry => deviceNameOf entry.2.mountpoint) =
      places.map fun place => deviceNameOf (.text place) := by
    simpa [Function.comp_def] using congrArg (List.map deviceNameOf) spelled
  rw [DistinctDeviceNames, pairwise_ne_iff_of_map_eq named]
  apply List.Pairwise.iff
  intro left right
  rw [Ne, deviceNameOf_eq_iff]

/-- A device takes its name from the last segment of the mountpoint and from nothing else. -/
theorem deviceNameOf_namesSegment (mountpoint : Text) :
    (∃ name, deviceNameOf (.text mountpoint) = .ok name ∧ NamedFor mountpoint name) ∧
    (∀ count, deviceNameOf (.text (mountpoint ++ slashes count)) =
      deviceNameOf (.text mountpoint)) ∧
    ∀ other, deviceNameOf (.text mountpoint) = deviceNameOf (.text other) ↔
      Coincide (finalSegment? mountpoint) (finalSegment? other) := by
  refine ⟨⟨_, rfl, deviceName_namedFor mountpoint⟩, fun count => ?_, fun other => ?_⟩
  · exact congrArg Except.ok (deviceName_append_slashes mountpoint count)
  · exact deviceNameOf_eq_iff mountpoint other

example : deviceName "/" = deviceName "//srv//root//" := by decide

end ImageStages.Layout
