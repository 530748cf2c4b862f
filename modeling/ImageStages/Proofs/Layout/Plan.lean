import ImageStages.Layout.Mount
import ImageStages.Proofs.Document.Uses

namespace ImageStages.Layout

variable {inputName device filename : Document} {table : PartitionTable}
  {entry : Partition × Filesystem} {entries : List (Partition × Filesystem)}
  {partitions : List Partition} {resolved : Resolved} {plan : CopyPlan}

def mountTypeOf? (filesystemType : Document) : Option MountType :=
  match filesystemType with
  | .scalar type => MountType.ofFilesystem? type
  | _ => none

theorem mem_mountable_iff :
    entry ∈ mountable partitions ↔
      ∃ partition ∈ partitions, ∃ filesystem, partition.filesystem = some filesystem ∧
        entry = (partition, filesystem) := by
  simp [mountable, eq_comm (a := entry)]

/-- What a mounted partition adds to the devices and to the mounts. -/
structure Resolves (filename : Document) (entry : Partition × Filesystem)
    (resolved : Resolved) : Prop where
  name : deviceNameOf entry.2.mountpoint = .ok resolved.name
  device : resolved.device = loopback filename (.int entry.1.start) (.int entry.1.size)
  mountName : resolved.mount.name = .text resolved.name
  source : resolved.mount.source = .text resolved.name
  target : resolved.mount.target = entry.2.mountpoint

theorem filesystemMount_ok_iff {filesystem : Filesystem} {name : Document} {mount : Mount} :
    filesystemMount filesystem name = .ok mount ↔
      ∃ type, mountTypeOf? filesystem.type = some type ∧
        mount = type.mount name name filesystem.mountpoint := by
  cases given : filesystem.type with
  | scalar type =>
      cases known : MountType.ofFilesystem? type <;>
        simp [filesystemMount, mountTypeOf?, Document.asKey, given, known, eq_comm]
  | list items => simp [filesystemMount, mountTypeOf?, Document.asKey, given]
  | object fields => simp [filesystemMount, mountTypeOf?, Document.asKey, given]

theorem resolve_resolves (completed : resolve filename entry = .ok resolved) :
    Resolves filename entry resolved := by
  simp only [resolve, Outcome.lift_mishap, Except.bind_eq_ok_iff, Except.mapError_eq_ok_iff,
    filesystemMount_ok_iff, Except.pure_eq_ok, Except.ok.injEq] at completed
  obtain ⟨name, named, _, ⟨type, _, rfl⟩, rfl⟩ := completed
  exact ⟨named, rfl, rfl, rfl, rfl⟩

theorem resolveAll_resolves {all : List Resolved}
    (completed : resolveAll filename partitions = .ok all) :
    List.Forall₂ (Resolves filename) (mountable partitions) all :=
  (Except.mapM_eq_ok_iff.mp completed).imp fun _ _ => resolve_resolves

theorem copyPlan_ok_iff :
    (copyPlan inputName table device).result = .ok plan ↔
      ∃ filename all, backingFile device = .ok filename ∧
        resolveAll filename table.partitions = .ok all ∧
        plan = {
          options := ImageStages.options [("paths", .list [.record [
            ("from", .text ("input://" ++ inputName.inText ++ "/")),
            ("to", .text "mount://root/")]])]
          devices := Fields.ofPairs (all.map fun entry => (.text entry.name, entry.device))
          mounts := sortMounts (all.map (·.mount)) } := by
  simp only [copyPlan, Outcome.result_bind, Outcome.result_lift, Outcome.result_note,
    Outcome.result_pure, Except.bind_eq_ok_iff, Except.ok.injEq]
  constructor
  · intro succeeded
    obtain ⟨filename, backed, all, completed, _, _, rfl⟩ := succeeded
    exact ⟨filename, all, backed, completed, rfl⟩
  · intro made
    obtain ⟨filename, all, backed, completed, rfl⟩ := made
    exact ⟨filename, backed, all, completed, (), trivial, rfl⟩

def mountableTypes : List String := ["xfs", "vfat", "ext4", "btrfs"]

def CanMount (filesystem : Filesystem) : Prop :=
  ∃ name ∈ mountableTypes, filesystem.type = .text name

section Filesystem

variable {filesystem : Filesystem} {name : Document} {failure : Failure}

theorem ofFilesystem?_eq_none_iff {type : Scalar} :
    MountType.ofFilesystem? type = none ↔ ∀ name ∈ mountableTypes, type ≠ .text name := by
  unfold MountType.ofFilesystem?
  repeat' split
  all_goals simp_all [mountableTypes]

theorem mountTypeOf?_eq_none_iff :
    mountTypeOf? filesystem.type = none ↔ ¬ CanMount filesystem := by
  cases given : filesystem.type with
  | scalar type => simp [mountTypeOf?, ofFilesystem?_eq_none_iff, CanMount, given]
  | list items => simp [mountTypeOf?, CanMount, given]
  | object fields => simp [mountTypeOf?, CanMount, given]

theorem filesystemMount_succeeds_iff :
    (∃ mount, filesystemMount filesystem name = .ok mount) ↔ CanMount filesystem := by
  rw [← not_iff_not, ← mountTypeOf?_eq_none_iff]
  simp [filesystemMount_ok_iff, Option.eq_none_iff_forall_ne_some]

theorem filesystemMount_strays_iff :
    Strays (filesystemMount filesystem name) ↔ ¬ filesystem.type.IsScalar := by
  cases given : filesystem.type with
  | scalar type =>
      cases known : MountType.ofFilesystem? type <;>
        simp [filesystemMount, Document.asKey, given, known]
  | list items => simp [filesystemMount, Document.asKey, given]
  | object fields => simp [filesystemMount, Document.asKey, given]

theorem filesystemMount_error_iff (typed : filesystem.type.IsScalar) :
    filesystemMount filesystem name = .error failure ↔
      ¬ CanMount filesystem ∧
        failure = .invariant (.filesystem filesystem.type filesystem.mountpoint) := by
  obtain ⟨type, given⟩ := typed
  rw [← mountTypeOf?_eq_none_iff, given]
  cases known : MountType.ofFilesystem? type <;>
    simp [filesystemMount, mountTypeOf?, Document.asKey, given, known, eq_comm (a := failure)]

end Filesystem

section Entry

variable {failure : Failure}

@[simp] theorem trips_deviceNameOf {mountpoint : Document} :
    Trips (deviceNameOf mountpoint) ↔ ¬ mountpoint.IsText := by
  cases mountpoint with
  | scalar scalar => cases scalar <;> simp [deviceNameOf, Document.IsText]
  | list items => simp [deviceNameOf, Document.IsText]
  | object fields => simp [deviceNameOf, Document.IsText]

theorem deviceNameOf_succeeds_iff {mountpoint : Document} :
    (∃ name, deviceNameOf mountpoint = .ok name) ↔ mountpoint.IsText := by
  cases mountpoint with
  | scalar scalar => cases scalar <;> simp [deviceNameOf, Document.IsText]
  | list items => simp [deviceNameOf, Document.IsText]
  | object fields => simp [deviceNameOf, Document.IsText]

def Resolvable (entry : Partition × Filesystem) : Prop :=
  entry.2.mountpoint.IsText ∧ CanMount entry.2

theorem resolve_succeeds_iff :
    (∃ resolved, resolve filename entry = .ok resolved) ↔ Resolvable entry := by
  rw [Resolvable, ← deviceNameOf_succeeds_iff]
  simp [resolve, Except.bind_eq_ok_iff, filesystemMount_succeeds_iff]

theorem resolve_strays_iff :
    Strays (resolve filename entry) ↔
      ¬ entry.2.mountpoint.IsText ∨
      (entry.2.mountpoint.IsText ∧ ¬ entry.2.type.IsScalar) := by
  simp [resolve, filesystemMount_strays_iff, deviceNameOf_succeeds_iff]

theorem resolve_error_iff (mounted : entry.2.mountpoint.IsText)
    (typed : entry.2.type.IsScalar) :
    resolve filename entry = .error failure ↔
      ¬ CanMount entry.2 ∧
        failure = .invariant (.filesystem entry.2.type entry.2.mountpoint) := by
  obtain ⟨name, named⟩ := deviceNameOf_succeeds_iff.mpr mounted
  simp [resolve, named, Except.bind_eq_error_iff, filesystemMount_error_iff typed]

end Entry

section Device

variable {device : Fields} {failure : Failure}

def IsLoopback (device : Fields) : Prop :=
  Fields.find? device (.text "type") = some (.text loopbackType)

def HasPlainOptions (device : Fields) : Prop :=
  ∀ options, Fields.find? device (.text "options") = some options → options.IsObject

theorem loopback_isLoopback (filename start size : Document) :
    ∃ device, loopback filename start size = .object device ∧ IsLoopback device ∧
      HasPlainOptions device := by
  refine ⟨_, rfl, rfl, ?_⟩
  intro options found
  have given : some (Document.record [("filename", filename), ("start", start),
      ("size", size)]) = some options := found
  rw [← Option.some.inj given]
  exact ⟨_, rfl⟩

theorem isLoopback_iff :
    ((Fields.find? device (.text "type")).getD .null).same (.text loopbackType) = true ↔
      IsLoopback device := by
  rw [Document.same_text_iff, IsLoopback]
  cases Fields.find? device (.text "type") <;> simp

theorem backingFile_of_loopback (isLoopback : IsLoopback device) :
    backingFile (.object device) =
      (((Fields.find? device (.text "options")).getD (.object [])).lookupOr "filename"
        (.text "")).mapError .mishap := by
  simp [backingFile, Document.lookup, Document.lookupOr, Document.members, Except.map,
    isLoopback_iff, isLoopback]

theorem backingFile_of_foreign (foreign : ¬ IsLoopback device) :
    backingFile (.object device) =
      .error (.invariant (.device ((Fields.find? device (.text "type")).getD (.text "")))) := by
  simp [backingFile, Document.lookup, Document.members, Except.map, isLoopback_iff, foreign]

theorem backingFile_error_iff (plain : HasPlainOptions device) :
    backingFile (.object device) = .error failure ↔
      ¬ IsLoopback device ∧
        failure = .invariant
          (.device ((Fields.find? device (.text "type")).getD (.text ""))) := by
  by_cases isLoopback : IsLoopback device
  · have readable : ((Fields.find? device (.text "options")).getD (.object [])).IsObject := by
      cases found : Fields.find? device (.text "options") with
      | none => exact ⟨[], rfl⟩
      | some options => exact plain options found
    obtain ⟨options, given⟩ := readable
    simp [backingFile_of_loopback isLoopback, isLoopback, given, Document.lookupOr,
      Document.lookup, Document.members, Except.map]
  · simp [backingFile_of_foreign isLoopback, isLoopback, eq_comm (a := failure)]

theorem backingFile_strays_iff :
    Strays (backingFile (.object device)) ↔
      IsLoopback device ∧ ¬ HasPlainOptions device := by
  by_cases isLoopback : IsLoopback device
  · cases found : Fields.find? device (.text "options") <;>
      simp [backingFile_of_loopback isLoopback, isLoopback, HasPlainOptions, found]
  · simp [backingFile_of_foreign isLoopback, isLoopback]

theorem backingFile_succeeds_iff :
    (∃ filename, backingFile (.object device) = .ok filename) ↔
      IsLoopback device ∧ HasPlainOptions device := by
  constructor
  · intro completed
    obtain ⟨filename, backed⟩ := completed
    by_contra contrary
    by_cases isLoopback : IsLoopback device
    · have failed := backingFile_strays_iff.mpr
        ⟨isLoopback, fun plain => contrary ⟨isLoopback, plain⟩⟩
      simp [backed] at failed
    · simp [backingFile_of_foreign isLoopback] at backed
  · intro succeeded
    obtain ⟨isLoopback, plain⟩ := succeeded
    cases backed : backingFile (.object device) with
    | ok filename => exact ⟨filename, rfl⟩
    | error failure => exact absurd isLoopback ((backingFile_error_iff plain).mp backed).1

end Device

section Table

variable {failure : Failure}

/-- The first partition that cannot take part in a copy trips it, by a mountpoint that is
no text or by a filesystem type that cannot even be looked up. -/
def TableTrips (table : PartitionTable) : Prop :=
  ∃ before entry after, mountable table.partitions = before ++ entry :: after ∧
    (∀ earlier ∈ before, Resolvable earlier) ∧
    (¬ entry.2.mountpoint.IsText ∨ (entry.2.mountpoint.IsText ∧ ¬ entry.2.type.IsScalar))

theorem resolveAll_strays_iff :
    Strays (resolveAll filename table.partitions) ↔ TableTrips table := by
  simp only [resolveAll, failsWith_mapM_iff, resolve_succeeds_iff, resolve_strays_iff, TableTrips]

theorem resolveAll_error_iff
    (mounted : ∀ entry ∈ mountable partitions, entry.2.mountpoint.IsText)
    (typed : ∀ entry ∈ mountable partitions, entry.2.type.IsText) :
    resolveAll filename partitions = .error failure ↔
      ∃ before partition filesystem after,
        mountable partitions = before ++ (partition, filesystem) :: after ∧
        (∀ earlier ∈ before, CanMount earlier.2) ∧ ¬ CanMount filesystem ∧
        failure = .invariant (.filesystem filesystem.type filesystem.mountpoint) := by
  simp only [resolveAll, Except.mapM_eq_error_iff, resolve_succeeds_iff]
  constructor
  · intro refused
    obtain ⟨before, entry, after, split, resolvable, failed⟩ := refused
    have member : entry ∈ mountable partitions := by simp [split]
    obtain ⟨unknown, rfl⟩ := (resolve_error_iff (mounted entry member)
      (typed entry member).isScalar).mp failed
    exact ⟨before, entry.1, entry.2, after, split,
      fun earlier present => (resolvable earlier present).2, unknown, rfl⟩
  · intro cause
    obtain ⟨before, partition, filesystem, after, split, known, unknown, rfl⟩ := cause
    have member : (partition, filesystem) ∈ mountable partitions := by simp [split]
    refine ⟨before, _, after, split, ?_, (resolve_error_iff (mounted _ member)
      (typed _ member).isScalar).mpr ⟨unknown, rfl⟩⟩
    intro earlier present
    exact ⟨mounted earlier (by simp [split, present]), known earlier present⟩

theorem copyPlan_error_iff :
    (copyPlan inputName table device).result = .error failure ↔
      backingFile device = .error failure ∨
      ∃ filename, backingFile device = .ok filename ∧
        resolveAll filename table.partitions = .error failure := by
  simp [copyPlan, Except.bind_eq_error_iff]

theorem copyPlan_strays_iff :
    Strays (copyPlan inputName table device).result ↔
      Strays (backingFile device) ∨
      ((∃ filename, backingFile device = .ok filename) ∧ TableTrips table) := by
  simp [copyPlan, resolveAll_strays_iff]

theorem copyStage_strays_iff {name : Text} {pipeline : Document} {device : Fields} :
    Strays (copyStage (.text name) pipeline table (.object device)).result ↔
      IsLoopback device ∧
        (¬ HasPlainOptions device ∨ (HasPlainOptions device ∧ TableTrips table)) := by
  have named : (Document.text name).asKey = .ok (.text name) := rfl
  simp only [copyStage, Outcome.result_bind, Outcome.result_pure, Outcome.result_lift_mishap,
    failsWith_bind, named, Except.mapError_ok, not_failsWith_ok, and_false, exists_false, or_false,
    copyPlan_strays_iff, backingFile_strays_iff, backingFile_succeeds_iff, and_assoc, ← and_or_left]

end Table

theorem sortMounts_perm (mounts : List Mount) : (sortMounts mounts).Perm mounts :=
  List.mergeSort_perm mounts _

end ImageStages.Layout
