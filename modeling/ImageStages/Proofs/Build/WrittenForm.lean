import ImageStages.Build.Request
import ImageStages.Proofs.Document.Uses

namespace ImageStages

/-- Records are read back from their written form. -/
structure Restores (read : Document → Except Mishap α) (write : α → Document) : Prop where
  again : ∀ data value, read (.object data) = .ok value → read (write value) = .ok value
  written : ∀ value, (write value).IsObject ∧ read (write value) = .ok value

section Parts

variable {read : Document → Except Mishap α} {write : α → Document}

theorem Restores.of_written (written : ∀ value, (write value).IsObject ∧
    read (write value) = .ok value) : Restores read write :=
  ⟨fun _ value _ => (written value).2, written⟩

theorem mapM_written (restored : ∀ value, read (write value) = .ok value) (values : List α) :
    (values.map write).mapM read = .ok values := by
  rw [Except.mapM_eq_ok_iff, List.forall₂_map_left_iff, List.forall₂_same]
  exact fun value _ => restored value

/-- A section is told from none because no written form is null. -/
theorem readSection_writeSection (filled : ∀ value, (write value).isNull = false)
    (restored : ∀ value, read (write value) = .ok value) (value : Option α) :
    readSection read (writeSection write value) = .ok value := by
  cases value with
  | none => rfl
  | some value => simp [readSection, writeSection, filled, restored]

end Parts

theorem Filesystem.restores : Restores Filesystem.ofDocument Filesystem.toDocument :=
  .of_written fun _ => ⟨⟨_, rfl⟩, rfl⟩

theorem Partition.restores : Restores Partition.ofDocument Partition.toDocument := by
  refine .of_written fun partition => ⟨⟨_, rfl⟩, ?_⟩
  obtain ⟨start, size, type, bootable, uuid, filesystem⟩ := partition
  -- A filesystem is looked for by whether it counts as given, and no written one is empty.
  cases filesystem with
  | none => rfl
  | some filesystem => rfl

theorem PartitionTable.restores :
    Restores PartitionTable.ofDocument PartitionTable.toDocument := by
  refine .of_written fun table => ⟨⟨_, rfl⟩, ?_⟩
  have partitions := mapM_written (fun partition => (Partition.restores.written partition).2)
    table.partitions
  change (do
    let partitions ← (table.partitions.map Partition.toDocument).mapM Partition.ofDocument
    return PartitionTable.mk table.type table.uuid partitions) = _
  rw [partitions]
  rfl

theorem User.restores : Restores User.ofDocument User.toDocument := by
  refine .of_written fun user => ⟨⟨_, rfl⟩, ?_⟩
  have written (groups : List Document) : (Document.list groups).items = .ok groups := rfl
  have groups := readSection_writeSection (fun _ => rfl) written user.groups
  change (do
    let groups ← readSection Document.items (writeSection .list user.groups)
    return { user with groups }) = _
  rw [groups]
  rfl

theorem Group.restores : Restores Group.ofDocument Group.toDocument :=
  .of_written fun _ => ⟨⟨_, rfl⟩, rfl⟩

theorem Services.restores : Restores Services.ofDocument Services.toDocument :=
  .of_written fun _ => ⟨⟨_, rfl⟩, rfl⟩

theorem Firewall.restores : Restores Firewall.ofDocument Firewall.toDocument := by
  refine .of_written fun firewall => ⟨⟨_, rfl⟩, ?_⟩
  have services := readSection_writeSection (fun _ => rfl)
    (fun services => (Services.restores.written services).2) firewall.services
  change (do
    let services ← readSection Services.ofDocument
      (writeSection Services.toDocument firewall.services)
    return Firewall.mk firewall.ports services) = _
  rw [services]
  rfl

theorem Kernel.restores : Restores Kernel.ofDocument Kernel.toDocument :=
  .of_written fun _ => ⟨⟨_, rfl⟩, rfl⟩

theorem Customizations.restores :
    Restores Customizations.ofDocument Customizations.toDocument := by
  refine .of_written fun custom => ⟨⟨_, rfl⟩, ?_⟩
  have users := mapM_written (fun user => (User.restores.written user).2) custom.users
  have groups := mapM_written (fun group => (Group.restores.written group).2) custom.groups
  have firewall := readSection_writeSection (fun _ => rfl)
    (fun firewall => (Firewall.restores.written firewall).2) custom.firewall
  have services := readSection_writeSection (fun _ => rfl)
    (fun services => (Services.restores.written services).2) custom.services
  have kernel := readSection_writeSection (fun _ => rfl)
    (fun kernel => (Kernel.restores.written kernel).2) custom.kernel
  change (do
    let users ← (custom.users.map User.toDocument).mapM User.ofDocument
    let groups ← (custom.groups.map Group.toDocument).mapM Group.ofDocument
    let firewall ← readSection Firewall.ofDocument
      (writeSection Firewall.toDocument custom.firewall)
    let services ← readSection Services.ofDocument
      (writeSection Services.toDocument custom.services)
    let kernel ← readSection Kernel.ofDocument (writeSection Kernel.toDocument custom.kernel)
    return Customizations.mk users groups firewall services kernel) = _
  rw [users, groups, firewall, services, kernel]
  rfl

theorem Repository.restores : Restores Repository.ofDocument Repository.toDocument :=
  .of_written fun _ => ⟨⟨_, rfl⟩, rfl⟩

/-- Every record of a build request is read back from its written form, whatever it holds. -/
theorem records_restored :
    Restores Filesystem.ofDocument Filesystem.toDocument ∧
    Restores Partition.ofDocument Partition.toDocument ∧
    Restores PartitionTable.ofDocument PartitionTable.toDocument ∧
    Restores User.ofDocument User.toDocument ∧
    Restores Group.ofDocument Group.toDocument ∧
    Restores Firewall.ofDocument Firewall.toDocument ∧
    Restores Services.ofDocument Services.toDocument ∧
    Restores Kernel.ofDocument Kernel.toDocument ∧
    Restores Customizations.ofDocument Customizations.toDocument ∧
    Restores Repository.ofDocument Repository.toDocument :=
  ⟨Filesystem.restores, Partition.restores, PartitionTable.restores, User.restores,
    Group.restores, Firewall.restores, Services.restores, Kernel.restores,
    Customizations.restores, Repository.restores⟩

end ImageStages
