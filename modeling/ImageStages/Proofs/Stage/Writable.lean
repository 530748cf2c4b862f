import ImageStages.Layout.Table
import ImageStages.Proofs.Document.Writable
import ImageStages.Proofs.Stage.MadeOf

namespace ImageStages

variable {user : User} {group : Group} {services : Services} {firewall : Firewall}
  {partition : Partition} {filesystem : Filesystem} {table : PartitionTable}

section Accounts

theorem User.madeOf_of_writable (writable : user.toDocument.Writable)
    (named : user.name.IsText) : user.MadeOf Scalar.Exact := by
  have groups := Document.writable_writeSection_iff Document.list user.groups
  simp only [User.toDocument, Document.writable_record_iff, List.forall_mem_cons, groups,
    Document.writable_list_iff] at writable
  simp only [Document.writable_iff_madeOf] at writable
  obtain ⟨_, _, description, _, key, home, shell, groups, uid, gid, _⟩ := writable
  exact ⟨named, uid.ifSet, gid.ifSet, description.ifSet, home.ifSet, shell.ifSet, key.ifSet,
    groups⟩

theorem Group.madeOf_of_writable (writable : group.toDocument.Writable)
    (named : group.name.IsText) : group.MadeOf Scalar.Exact := by
  simp only [Group.toDocument, Document.writable_record_iff, List.forall_mem_cons] at writable
  simp only [Document.writable_iff_madeOf] at writable
  obtain ⟨_, _, gid, _⟩ := writable
  exact ⟨named, gid.ifSet⟩

end Accounts

section Services

theorem Services.madeOf_of_writable (writable : services.toDocument.Writable) :
    services.MadeOf Scalar.Exact := by
  simp only [Services.toDocument, Document.writable_record_iff, List.forall_mem_cons,
    Document.writable_list_iff] at writable
  simp only [Document.writable_iff_madeOf] at writable
  obtain ⟨_, enabled, disabled, _⟩ := writable
  exact ⟨enabled, disabled⟩

theorem Firewall.madeOf_of_writable (writable : firewall.toDocument.Writable) :
    firewall.MadeOf Scalar.Exact := by
  simp only [Firewall.toDocument, Document.writable_record_iff, List.forall_mem_cons,
    Document.writable_list_iff, Document.writable_writeSection_iff] at writable
  obtain ⟨_, ports, services, _⟩ := writable
  simp only [Document.writable_iff_madeOf] at ports
  exact ⟨ports, fun known given => Services.madeOf_of_writable (services known given)⟩

end Services

section Table

/-- The parts of a partition that can be written. -/
structure Partition.Exact (partition : Partition) : Prop where
  start : (Document.int partition.start).Writable
  size : (Document.int partition.size).Writable
  type : partition.type.Writable
  uuid : partition.uuid.Writable
  filesystem : ∀ filesystem, partition.filesystem = some filesystem →
    filesystem.toDocument.Writable

theorem Partition.writable_iff : partition.toDocument.Writable ↔ partition.Exact := by
  have filesystem := Document.writable_writeSection_iff Filesystem.toDocument
    partition.filesystem
  rw [writeSection] at filesystem
  simp only [Partition.toDocument, Document.writable_record_iff, List.forall_mem_cons,
    filesystem]
  constructor
  · rintro ⟨_, start, size, type, _, uuid, mounted, _⟩
    exact ⟨start, size, type, uuid, mounted⟩
  · rintro ⟨start, size, type, uuid, mounted⟩
    exact ⟨by simp, start, size, type, Document.writable_bool _, uuid, mounted, by simp⟩

theorem PartitionTable.writable_iff : table.toDocument.Writable ↔
    table.type.Writable ∧ table.uuid.Writable ∧
      ∀ partition ∈ table.partitions, partition.Exact := by
  simp [PartitionTable.toDocument, Partition.writable_iff]

theorem Filesystem.madeOf_of_writable (writable : filesystem.toDocument.Writable) :
    filesystem.MadeOf Scalar.Exact := by
  simp only [Filesystem.toDocument, Document.writable_record_iff, List.forall_mem_cons]
    at writable
  simp only [Document.writable_iff_madeOf] at writable
  obtain ⟨_, type, uuid, mountpoint, _⟩ := writable
  exact ⟨type, uuid, mountpoint⟩

theorem Partition.Exact.madeOf (exact : partition.Exact) : partition.MadeOf Scalar.Exact where
  start := Document.writable_scalar_iff.mp exact.start
  size := Document.writable_scalar_iff.mp exact.size
  type := Document.writable_iff_madeOf.mp exact.type
  uuid := Document.writable_iff_madeOf.mp exact.uuid
  filesystem filesystem held := Filesystem.madeOf_of_writable (exact.filesystem filesystem held)

theorem PartitionTable.madeOf_of_writable (writable : table.toDocument.Writable)
    (short : table.partitions.length ≤ 10 ^ Json.integerDigitLimit) :
    table.MadeOf Scalar.Exact := by
  obtain ⟨type, uuid, partitions⟩ := PartitionTable.writable_iff.mp writable
  refine ⟨Document.writable_iff_madeOf.mp type, Document.writable_iff_madeOf.mp uuid,
    fun partition member => (partitions partition member).madeOf, fun index inside => ?_⟩
  rw [Scalar.Exact, Int.natAbs_natCast]
  exact Nat.lt_of_lt_of_le inside short

end Table

end ImageStages
