import Mathlib.Data.List.Nodup
import ImageStages.Proofs.Document.Keys
import ImageStages.Proofs.Layout.Plan

namespace ImageStages.Layout

/-! The devices and the mounts of a copy plan.

Each mount reaches its own partition, and the tree is copied into the root
filesystem, exactly when no two mounted partitions have a device name in common. -/

variable {inputName device filename : Document} {table : PartitionTable} {plan : CopyPlan}

def DistinctMountpoints (table : PartitionTable) : Prop :=
  (mountable table.partitions).Pairwise fun left right =>
    left.2.mountpoint ≠ right.2.mountpoint

def DistinctDeviceNames (table : PartitionTable) : Prop :=
  (mountable table.partitions).Pairwise fun left right =>
    deviceNameOf left.2.mountpoint ≠ deviceNameOf right.2.mountpoint

def Backs (device filename : Document) : Prop :=
  ∃ fields options, device = .object fields ∧
    (Fields.find? fields (.text "options")).getD (.object []) = .object options ∧
    filename = (Fields.find? options (.text "filename")).getD (.text "")

/-- The mount is the only one with its target, and its source is the device that spans
the partition. -/
def Reaches (filename : Document) (plan : CopyPlan) (partition : Partition)
    (filesystem : Filesystem) : Prop :=
  ∃ before mount after source, plan.mounts = before ++ mount :: after ∧
    mount.target = filesystem.mountpoint ∧
    (∀ other ∈ before ++ after, other.target ≠ filesystem.mountpoint) ∧
    mount.source = .text source ∧
    Fields.find? plan.devices (.text source) =
      some (loopback filename (.int partition.start) (.int partition.size))

/-- A plan that gives every mounted partition a device and a mount of its own, and
copies into the root filesystem. -/
structure Faithful (table : PartitionTable) (filename : Document) (plan : CopyPlan) : Prop where
  devices : plan.devices.length = (mountable table.partitions).length
  mounts : ∀ entry ∈ mountable table.partitions, Reaches filename plan entry.1 entry.2
  names : plan.mounts.Pairwise fun left right => left.name ≠ right.name
  root : (∃ entry ∈ mountable table.partitions, entry.2.mountpoint = rootMountpoint) →
    (∃ source, Fields.find? plan.options (.text "paths") = some (.list [.record [
      ("from", source), ("to", .text ("mount://" ++ rootDevice ++ "/"))]])) ∧
    (∃ mount ∈ plan.mounts, mount.target = rootMountpoint) ∧
    ∀ mount ∈ plan.mounts, mount.name = .text rootDevice ↔ mount.target = rootMountpoint

theorem backs_of_backingFile (backed : backingFile device = .ok filename) :
    Backs device filename := by
  cases device with
  | object fields =>
      simp only [backingFile, Document.lookup, Document.lookupOr, Document.members, Except.map,
        Outcome.lift_mishap, Except.mapError_ok, Except.ok_bind] at backed
      split at backed
      · cases given : (Fields.find? fields (.text "options")).getD (.object []) with
        | object options =>
            simp only [given, Except.mapError_ok, Except.ok.injEq] at backed
            exact ⟨fields, options, rfl, given, backed.symm⟩
        | scalar value => simp [given] at backed
        | list items => simp [given] at backed
      · contradiction
  | scalar value => simp [backingFile, Document.lookup, Document.members, Except.map] at backed
  | list items => simp [backingFile, Document.lookup, Document.members, Except.map] at backed

section Resolved

variable {entries : List (Partition × Filesystem)} {all : List Resolved}

theorem targets_of_resolves (resolves : List.Forall₂ (Resolves filename) entries all) :
    all.map (·.mount.target) = entries.map (·.2.mountpoint) := by
  induction resolves with
  | nil => rfl
  | cons first _ ih => simp only [List.map_cons, first.target, ih]

theorem names_of_resolves (resolves : List.Forall₂ (Resolves filename) entries all) :
    (all.map fun resolved => (.ok resolved.name : Except Mishap Text)) =
      entries.map fun entry => deviceNameOf entry.2.mountpoint := by
  induction resolves with
  | nil => rfl
  | cons first _ ih => simp only [List.map_cons, first.name, ih]

theorem mountNames_of_resolves (resolves : List.Forall₂ (Resolves filename) entries all) :
    all.map (·.mount.name) = all.map fun resolved => .text resolved.name := by
  induction resolves with
  | nil => rfl
  | cons first _ ih => simp only [List.map_cons, first.mountName, ih]

theorem pairwise_ne_iff_of_map_eq {left : List α} {right : List β} {show₁ : α → γ}
    {show₂ : β → γ} (same : left.map show₁ = right.map show₂) :
    (left.Pairwise fun a b => show₁ a ≠ show₁ b) ↔
      right.Pairwise fun a b => show₂ a ≠ show₂ b := by
  have shown := congrArg (List.Pairwise (· ≠ ·)) same
  simpa only [List.pairwise_map, eq_iff_iff] using shown

theorem pairwise_names_iff (resolves : List.Forall₂ (Resolves filename) entries all) :
    (all.Pairwise fun left right => left.name ≠ right.name) ↔
      entries.Pairwise fun left right =>
        deviceNameOf left.2.mountpoint ≠ deviceNameOf right.2.mountpoint := by
  simpa using pairwise_ne_iff_of_map_eq (names_of_resolves resolves)

theorem pairwise_mountNames_iff (resolves : List.Forall₂ (Resolves filename) entries all) :
    (all.Pairwise fun left right => left.mount.name ≠ right.mount.name) ↔
      all.Pairwise fun left right => left.name ≠ right.name := by
  simpa using pairwise_ne_iff_of_map_eq (mountNames_of_resolves resolves)

/-- Sorting mounts does not matter to what holds of any two of them. -/
theorem pairwise_sortMounts_iff {apart : Mount → Mount → Prop}
    (symm : ∀ {left right : Mount}, apart left right → apart right left) :
    (sortMounts (all.map (·.mount))).Pairwise apart ↔
      all.Pairwise fun left right => apart left.mount right.mount := by
  rw [(sortMounts_perm _).pairwise_iff symm, List.pairwise_map]

def devicePairs (all : List Resolved) : Fields :=
  all.map fun entry => (.text entry.name, entry.device)

theorem devicePairs_distinct (apart : all.Pairwise fun left right => left.name ≠ right.name) :
    Fields.Distinct (devicePairs all) := by
  simpa [devicePairs, Fields.Distinct, Fields.sameKey, List.pairwise_map] using apart

/-- Where names and targets differ, a partition is reached through its mount. -/
theorem reaches_of_mem {partition : Partition} {filesystem : Filesystem} {resolved : Resolved}
    (planned : plan.mounts = sortMounts (all.map (·.mount)))
    (exposed : plan.devices = devicePairs all)
    (apart : all.Pairwise fun left right => left.name ≠ right.name)
    (separate : all.Pairwise fun left right => left.mount.target ≠ right.mount.target)
    (member : resolved ∈ all) (resolves : Resolves filename (partition, filesystem) resolved) :
    Reaches filename plan partition filesystem := by
  have mounted : resolved.mount ∈ plan.mounts := by
    rw [planned, (sortMounts_perm _).mem_iff]
    exact List.mem_map_of_mem member
  have targets : plan.mounts.Pairwise fun left right => left.target ≠ right.target := by
    rw [planned, pairwise_sortMounts_iff fun different => different.symm]
    exact separate
  obtain ⟨before, after, split⟩ := List.append_of_mem mounted
  rw [split, List.pairwise_append, List.pairwise_cons] at targets
  obtain ⟨_, ⟨laterApart, _⟩, earlierApart⟩ := targets
  refine ⟨before, resolved.mount, after, resolved.name, split, resolves.target, ?_,
    resolves.source, ?_⟩
  · intro other present
    rw [← resolves.target]
    rcases List.mem_append.mp present with earlier | later
    · exact earlierApart other earlier resolved.mount (by simp)
    · exact (laterApart other later).symm
  · have listed : (.text resolved.name, resolved.device) ∈ devicePairs all :=
      List.mem_map.mpr ⟨resolved, member, rfl⟩
    rw [exposed, ← resolves.device]
    exact Fields.find?_of_mem (devicePairs_distinct apart) listed (by simp)

theorem deviceNameOf_root : deviceNameOf rootMountpoint = .ok rootDevice := rfl

theorem rootMount_iff (resolves : List.Forall₂ (Resolves filename) entries all)
    (apart : all.Pairwise fun left right => left.name ≠ right.name)
    (mounted : ∃ entry ∈ entries, entry.2.mountpoint = rootMountpoint) :
    (∃ resolved ∈ all, resolved.mount.target = rootMountpoint) ∧
    ∀ resolved ∈ all, resolved.mount.name = .text rootDevice ↔
      resolved.mount.target = rootMountpoint := by
  obtain ⟨entry, member, place⟩ := mounted
  obtain ⟨root, rootPresent, rootResolves⟩ := exists_related resolves member
  have rootTarget : root.mount.target = rootMountpoint := rootResolves.target.trans place
  have rootName : root.name = rootDevice := by
    have named := rootResolves.name
    rw [place, deviceNameOf_root] at named
    exact (Except.ok.inj named).symm
  refine ⟨⟨root, rootPresent, rootTarget⟩, ?_⟩
  intro resolved present
  obtain ⟨other, _, otherResolves⟩ := exists_related resolves.flip present
  constructor
  · intro named
    have sameName : resolved.name = root.name := by
      have spelled := otherResolves.mountName.symm.trans named
      simpa [rootName] using spelled
    have unique : (all.map (·.name)).Nodup := List.pairwise_map.mpr apart
    rw [List.inj_on_of_nodup_map unique present rootPresent sameName, rootTarget]
  · intro targeted
    have named := otherResolves.name
    rw [← otherResolves.target, targeted, deviceNameOf_root] at named
    rw [otherResolves.mountName, ← Except.ok.inj named]

end Resolved

/-- A plan is faithful exactly when it names no device twice. -/
theorem copyPlan_faithful_iff (distinct : DistinctMountpoints table)
    (planned : (copyPlan inputName table device).result = .ok plan) :
    ∃ filename, Backs device filename ∧
      (Faithful table filename plan ↔ DistinctDeviceNames table) := by
  obtain ⟨filename, all, backed, completed, rfl⟩ := copyPlan_ok_iff.mp planned
  have resolves := resolveAll_resolves completed
  refine ⟨filename, backs_of_backingFile backed, ?_, ?_⟩
  · intro faithful
    have apart := (pairwise_sortMounts_iff fun different => different.symm).mp faithful.names
    exact (pairwise_names_iff resolves).mp ((pairwise_mountNames_iff resolves).mp apart)
  · intro separate
    have apart := (pairwise_names_iff resolves).mpr separate
    -- With different names no device is stored over another.
    have exposed := Fields.ofPairs_of_distinct (devicePairs_distinct apart)
    have targets : all.Pairwise fun left right => left.mount.target ≠ right.mount.target :=
      (pairwise_ne_iff_of_map_eq (targets_of_resolves resolves)).mpr distinct
    refine ⟨?_, ?_, ?_, ?_⟩
    · exact (congrArg List.length exposed).trans (by simp [devicePairs, resolves.length_eq])
    · intro entry member
      obtain ⟨resolved, present, paired⟩ := exists_related resolves member
      exact reaches_of_mem rfl exposed apart targets present paired
    · exact (pairwise_sortMounts_iff fun different => different.symm).mpr
        ((pairwise_mountNames_iff resolves).mpr apart)
    · intro mounted
      obtain ⟨⟨root, present, targeted⟩, named⟩ := rootMount_iff resolves apart mounted
      refine ⟨⟨_, rfl⟩, ⟨root.mount, ?_, targeted⟩, ?_⟩
      · exact (sortMounts_perm _).mem_iff.mpr (List.mem_map_of_mem present)
      · intro mount listed
        obtain ⟨resolved, present, rfl⟩ :=
          List.mem_map.mp ((sortMounts_perm _).mem_iff.mp listed)
        exact named resolved present

def twoMounted (first second : Text) : PartitionTable where
  type := .text "gpt"
  uuid := .text ""
  partitions := [
    ⟨2048, 1024, .text "", false, .text "", some ⟨.text "xfs", .text "", .text first, .null⟩⟩,
    ⟨4096, 8192, .text "", false, .text "", some ⟨.text "xfs", .text "", .text second, .null⟩⟩]

def imageFile (filename : Text) : Document :=
  .record [
    ("type", .text loopbackType),
    ("options", .record [("filename", .text filename)])]

theorem twoMounted_distinct {first second : Text} (different : first ≠ second) :
    DistinctMountpoints (twoMounted first second) := by
  simpa [DistinctMountpoints, mountable, twoMounted] using different

theorem resolveAll_twoMounted (first second : Text) :
    ∃ all, resolveAll (.text "disk.img") (twoMounted first second).partitions = .ok all ∧
      devicePairs all = [
        (.text (deviceName first), loopback (.text "disk.img") (.int 2048) (.int 1024)),
        (.text (deviceName second), loopback (.text "disk.img") (.int 4096) (.int 8192))] :=
  ⟨_, rfl, rfl⟩

theorem copyPlan_twoMounted (first second : Text) :
    ∃ plan, (copyPlan (.text "tree") (twoMounted first second) (imageFile "disk.img")).result =
        .ok plan ∧
      plan.devices = Fields.ofPairs [
        (.text (deviceName first), loopback (.text "disk.img") (.int 2048) (.int 1024)),
        (.text (deviceName second), loopback (.text "disk.img") (.int 4096) (.int 8192))] := by
  obtain ⟨all, completed, exposed⟩ := resolveAll_twoMounted first second
  exact ⟨_, copyPlan_ok_iff.mpr ⟨.text "disk.img", all, rfl, completed, rfl⟩,
    congrArg Fields.ofPairs exposed⟩

/-- The boot files get a device of their own beside the root filesystem. -/
theorem copyPlan_faithful_boot :
    ∃ plan filename,
      (copyPlan (.text "tree") (twoMounted "/boot" "/") (imageFile "disk.img")).result =
        .ok plan ∧
      Backs (imageFile "disk.img") filename ∧
      Faithful (twoMounted "/boot" "/") filename plan := by
  obtain ⟨plan, planned, _⟩ := copyPlan_twoMounted "/boot" "/"
  obtain ⟨filename, backs, faithful⟩ :=
    copyPlan_faithful_iff (twoMounted_distinct (by decide)) planned
  have different : deviceName "/boot" ≠ deviceName "/" := by decide
  refine ⟨plan, filename, planned, backs, faithful.mpr ?_⟩
  simpa [DistinctDeviceNames, mountable, twoMounted, deviceNameOf] using different

/-- The second of two partitions with one device name takes the device of the first. -/
theorem copyPlan_logs_collide :
    ∃ plan,
      (copyPlan (.text "tree") (twoMounted "/var/log" "/srv/log") (imageFile "disk.img")).result =
        .ok plan ∧
      DistinctMountpoints (twoMounted "/var/log" "/srv/log") ∧
      plan.devices = [(.text "log", loopback (.text "disk.img") (.int 4096) (.int 8192))] ∧
      ∀ filename, ¬ Faithful (twoMounted "/var/log" "/srv/log") filename plan := by
  obtain ⟨plan, planned, exposed⟩ := copyPlan_twoMounted "/var/log" "/srv/log"
  have collapsed :
      plan.devices = [(.text "log", loopback (.text "disk.img") (.int 4096) (.int 8192))] :=
    exposed.trans rfl
  refine ⟨plan, planned, twoMounted_distinct (by decide), collapsed, ?_⟩
  intro filename faithful
  have counted := faithful.devices
  rw [collapsed] at counted
  contradiction

end ImageStages.Layout
