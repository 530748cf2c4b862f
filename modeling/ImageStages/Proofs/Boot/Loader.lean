import ImageStages.Proofs.Identifier
import ImageStages.Proofs.Layout.Mounted

namespace ImageStages

namespace Identifier

variable {value : Document}

@[simp] theorem not_strays_parse : ¬ Strays (parse value) := by
  unfold parse
  simp only
  split
  · split <;> simp
  · simp
  · simp

end Identifier

namespace Boot

variable {table : PartitionTable} {failure : Failure}

theorem grubCoreOptions_error_iff {filename platform : Document} :
    (grubCoreOptions filename table platform).result = .error failure ↔
      (¬ table.Mounted "/boot" ∧ ¬ table.Mounted "/") ∧
        failure = .invariant (.missingPartition (.text grubCoreStage) bootMountpoint) := by
  rw [← PartitionTable.bootIndex?_eq_none_iff]
  cases found : table.bootIndex? with
  | none => simp [grubCoreOptions, PartitionTable.bootIndex, found, eq_comm]
  | some index =>
      obtain ⟨partition, filesystem, present, held⟩ := PartitionTable.bootIndex?_eq_some found
      obtain ⟨first, head⟩ : ∃ first, table.partitions.head? = some first := by
        cases partitions : table.partitions with
        | nil => simp [partitions] at present
        | cons first rest => exact ⟨first, rfl⟩
      simp [grubCoreOptions, PartitionTable.bootIndex, found, present, held, head, filesystemOf]

theorem not_strays_grubCoreOptions {filename platform : Document} :
    ¬ Strays (grubCoreOptions filename table platform).result := by
  intro strays
  obtain ⟨failure, failed, stray⟩ := strays
  rw [(grubCoreOptions_error_iff.mp failed).2] at stray
  exact stray

theorem ziplOptions_error_iff {kernel : Document} :
    ziplOptions kernel table = .error failure ↔
      (¬ table.Mounted "/boot" ∧ ¬ table.Mounted "/") ∧
        failure = .invariant (.missingPartition (.text ziplStage) bootMountpoint) := by
  rw [← PartitionTable.bootIndex?_eq_none_iff]
  cases found : table.bootIndex? with
  | none => simp [ziplOptions, PartitionTable.bootIndex, found, eq_comm]
  | some index =>
      obtain ⟨partition, filesystem, present, held⟩ := PartitionTable.bootIndex?_eq_some found
      simp [ziplOptions, PartitionTable.bootIndex, found, present]

theorem not_strays_ziplOptions {kernel : Document} :
    ¬ Strays (ziplOptions kernel table) := by
  intro strays
  obtain ⟨failure, failed, stray⟩ := strays
  rw [(ziplOptions_error_iff.mp failed).2] at stray
  exact stray

/-- The configuration of grub2 is refused for want of a root filesystem, else for the
identifier of the root filesystem, else for that of the boot filesystem. -/
theorem grubOptions_error_iff {root boot : Option Partition} {request : GrubRequest} :
    grubOptions root boot request = .error failure ↔
      (filesystemOf root = none ∧
        failure = .invariant (.missingPartition (.text grubStage) rootMountpoint)) ∨
      ∃ rootFilesystem, filesystemOf root = some rootFilesystem ∧
        (Identifier.parse rootFilesystem.uuid = .error failure ∨
          (∃ id, Identifier.parse rootFilesystem.uuid = .ok id) ∧
            ∃ bootFilesystem, filesystemOf boot = some bootFilesystem ∧
              Identifier.parse bootFilesystem.uuid = .error failure) := by
  cases held : filesystemOf root with
  | none => simp [grubOptions, held, eq_comm (a := failure)]
  | some rootFilesystem =>
      cases heldBoot : filesystemOf boot <;>
        simp [grubOptions, held, heldBoot, Except.bind_eq_error_iff]

theorem not_strays_grubOptions {root boot : Option Partition} {request : GrubRequest} :
    ¬ Strays (grubOptions root boot request) := by
  cases held : filesystemOf root with
  | none => simp [grubOptions, held]
  | some rootFilesystem => cases heldBoot : filesystemOf boot <;> simp [grubOptions, held, heldBoot]

end Boot

end ImageStages
