import ImageStages.Boot.Loader
import ImageStages.Proofs.Document.Uses

namespace ImageStages

namespace Partition

theorem mountpoint_eq_text_iff {partition : Partition} {place : String} :
    partition.mountpoint = .text place ↔
      ∃ filesystem, partition.filesystem = some filesystem ∧
        filesystem.mountpoint = .text place := by
  cases held : partition.filesystem <;> simp [mountpoint, held]

end Partition

namespace PartitionTable

variable {table : PartitionTable} {place : String} {filesystem : Filesystem}

def Mounted (table : PartitionTable) (place : String) : Prop :=
  ∃ partition ∈ table.partitions, ∃ filesystem, partition.filesystem = some filesystem ∧
    filesystem.mountpoint = .text place

/-- The filesystem is the first, in the order of the table, that is mounted at the
place. -/
def FirstMounted (table : PartitionTable) (place : String) (filesystem : Filesystem) : Prop :=
  ∃ before partition after, table.partitions = before ++ partition :: after ∧
    partition.filesystem = some filesystem ∧ filesystem.mountpoint = .text place ∧
    ∀ earlier ∈ before, earlier.mountpoint ≠ .text place

theorem at?_eq_find? (table : PartitionTable) (mountpoint : Document) :
    table.at? mountpoint = table.partitions.find? (·.mountpoint.same mountpoint) :=
  List.find?_eq_bind_findIdx?_getElem?.symm

theorem at?_eq_some_iff {partition : Partition} :
    table.at? (.text place) = some partition ↔
      partition.mountpoint = .text place ∧
      ∃ before after, table.partitions = before ++ partition :: after ∧
        ∀ earlier ∈ before, earlier.mountpoint ≠ .text place := by
  simp [at?_eq_find?, List.find?_eq_some_iff_append, Document.same_text_iff,
    ← Bool.not_eq_true]

theorem filesystemOf_at?_eq_some_iff :
    Boot.filesystemOf (table.at? (.text place)) = some filesystem ↔
      table.FirstMounted place filesystem := by
  simp only [Boot.filesystemOf, Option.bind_eq_some_iff, at?_eq_some_iff]
  constructor
  · intro holds
    obtain ⟨partition, ⟨mounted, before, after, split, absent⟩, held⟩ := holds
    refine ⟨before, partition, after, split, held, ?_, absent⟩
    simpa [Partition.mountpoint, held] using mounted
  · intro known
    obtain ⟨before, partition, after, split, held, mounted, absent⟩ := known
    exact ⟨partition, ⟨Partition.mountpoint_eq_text_iff.mpr ⟨filesystem, held, mounted⟩,
      before, after, split, absent⟩, held⟩

theorem firstMounted_unique {other : Filesystem} (first : table.FirstMounted place filesystem)
    (second : table.FirstMounted place other) : filesystem = other := by
  rw [← filesystemOf_at?_eq_some_iff] at first second
  exact Option.some.inj (first.symm.trans second)

theorem find?_eq_none_iff : table.find? (.text place) = none ↔ ¬ table.Mounted place := by
  simp [find?, List.findIdx?_eq_none_iff, ← Bool.not_eq_true, Document.same_text_iff, Mounted,
    Partition.mountpoint_eq_text_iff]

theorem find?_eq_some {index : Nat} (found : table.find? (.text place) = some index) :
    ∃ partition filesystem, table.partitions[index]? = some partition ∧
      partition.filesystem = some filesystem ∧ filesystem.mountpoint = .text place := by
  obtain ⟨inside, mounted, _⟩ := List.findIdx?_eq_some_iff_getElem.mp found
  obtain ⟨filesystem, held, place⟩ :=
    Partition.mountpoint_eq_text_iff.mp (Document.same_text_iff.mp mounted)
  exact ⟨_, filesystem, List.getElem?_eq_getElem inside, held, place⟩

theorem filesystemOf_at?_eq_none_iff :
    Boot.filesystemOf (table.at? (.text place)) = none ↔ ¬ table.Mounted place := by
  rw [← find?_eq_none_iff]
  cases found : table.find? (.text place) with
  | none => simp [at?, found, Boot.filesystemOf]
  | some index =>
      obtain ⟨partition, filesystem, present, held, _⟩ := find?_eq_some found
      simp [at?, found, present, Boot.filesystemOf, held]

theorem bootIndex?_eq_none_iff :
    table.bootIndex? = none ↔ ¬ table.Mounted "/boot" ∧ ¬ table.Mounted "/" := by
  simp only [bootIndex?, Option.or_eq_none_iff, bootMountpoint, rootMountpoint,
    find?_eq_none_iff]

theorem bootIndex?_eq_some {index : Nat} (found : table.bootIndex? = some index) :
    ∃ partition filesystem, table.partitions[index]? = some partition ∧
      partition.filesystem = some filesystem := by
  rcases Option.or_eq_some_iff.mp found with dedicated | ⟨_, root⟩
  · obtain ⟨partition, filesystem, present, held, _⟩ := find?_eq_some dedicated
    exact ⟨partition, filesystem, present, held⟩
  · obtain ⟨partition, filesystem, present, held, _⟩ := find?_eq_some root
    exact ⟨partition, filesystem, present, held⟩

end PartitionTable

end ImageStages
