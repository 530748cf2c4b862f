import ImageStages.Proofs.Build.Reading
import ImageStages.Proofs.Catalog.Writable
import ImageStages.Proofs.Document.Change

namespace ImageStages

section Records

variable {data : Document} {read : Document → Except Mishap α} {result : Option α} {value : α}

theorem read_of_readSection (success : readSection read data = .ok (some value)) :
    read data = .ok value := by
  by_cases null : data = .null
  · subst null
    cases success
  · rw [readSection_of_ne_null null, Except.map_eq_ok_iff] at success
    obtain ⟨same, completed, wrapped⟩ := success
    rwa [← Option.some.inj wrapped]

theorem read_of_readGiven (success : readGiven read data = .ok (some value)) :
    read data = .ok value := by
  unfold readGiven at success
  split at success
  · obtain ⟨same, completed, wrapped⟩ := Except.map_eq_ok_iff.mp success
    rwa [← Option.some.inj wrapped]
  · cases success

end Records

section Blueprint

variable {data : Document} {user : User} {group : Group} {services : Services}
  {firewall : Firewall} {repository : Repository}

theorem User.writable_of_read (writable : data.Writable)
    (read : User.ofDocument data = .ok user) : user.toDocument.Writable := by
  obtain ⟨_, groups, yields, rfl⟩ := User.ofDocument_ok_iff.mp read
  have field (name : String) : (data.fieldOr name .null).Writable :=
    writable.fieldOr _ Document.writable_null
  have groups : (writeSection .list groups).Writable := by
    rw [Document.writable_writeSection_iff]
    rintro items rfl
    exact Document.writable_list_iff.mpr ((field "groups").of_items (read_of_readSection yields))
  simp [User.toDocument, field, groups]

theorem Group.writable_of_read (writable : data.Writable)
    (read : Group.ofDocument data = .ok group) : group.toDocument.Writable := by
  obtain ⟨_, rfl⟩ := Group.ofDocument_ok_iff.mp read
  have field (name : String) : (data.fieldOr name .null).Writable :=
    writable.fieldOr _ Document.writable_null
  simp [Group.toDocument, field]

theorem Services.writable_of_read (writable : data.Writable)
    (read : Services.ofDocument data = .ok services) : services.toDocument.Writable := by
  obtain ⟨_, enabled, disabled⟩ := Services.ofDocument_ok_iff.mp read
  have field (name : String) : (data.fieldOr name (.list [])).Writable :=
    writable.fieldOr _ Document.writable_nil
  have enabled := (field "enabled").of_items enabled
  have disabled := (field "disabled").of_items disabled
  simp only [Services.toDocument, Document.writable_record_iff, List.forall_mem_cons,
    Document.writable_list_iff]
  exact ⟨by simp, enabled, disabled, by simp⟩

theorem Firewall.writable_of_read (writable : data.Writable)
    (read : Firewall.ofDocument data = .ok firewall) : firewall.toDocument.Writable := by
  obtain ⟨_, ports, services⟩ := Firewall.ofDocument_ok_iff.mp read
  have listed : (data.fieldOr "ports" (.list [])).Writable :=
    writable.fieldOr _ Document.writable_nil
  have ports := listed.of_items ports
  have given : (data.fieldOr "services" .null).Writable :=
    writable.fieldOr _ Document.writable_null
  have services : ∀ services, firewall.services = some services →
      services.toDocument.Writable := by
    intro known present
    rw [present] at services
    exact Services.writable_of_read given (read_of_readSection services)
  simp only [Firewall.toDocument, Document.writable_record_iff, List.forall_mem_cons,
    Document.writable_list_iff, Document.writable_writeSection_iff]
  exact ⟨by simp, ports, services, by simp⟩

theorem Repository.writable_of_read (writable : data.Writable)
    (read : Repository.ofDocument data = .ok repository) : repository.toDocument.Writable := by
  obtain ⟨_, rfl⟩ := Repository.ofDocument_ok_iff.mp read
  have name : (data.fieldOr "name" .null).Writable := writable.fieldOr _ Document.writable_null
  have field (name : String) : (data.fieldOr name (.text [])).Writable :=
    writable.fieldOr _ (Document.writable_text [])
  simp [Repository.toDocument, name, field]

/-- The names of the accounts of a blueprint are texts. -/
structure Customizations.Named (customizations : Customizations) : Prop where
  users : ∀ user ∈ customizations.users, user.name.IsText
  groups : ∀ group ∈ customizations.groups, group.name.IsText

theorem Customizations.writable_of_read {customizations : Customizations}
    (writable : data.Writable) (named : customizations.Named)
    (read : Customizations.ofDocument data = .ok customizations) : customizations.Writable := by
  obtain ⟨_, ⟨accounts, listed, users⟩, ⟨circles, grouped, groups⟩, firewall, services, _⟩ :=
    Customizations.ofDocument_ok_iff.mp read
  have list (name : String) : (data.fieldOr name (.list [])).Writable :=
    writable.fieldOr _ Document.writable_nil
  have given (name : String) : (data.fieldOr name .null).Writable :=
    writable.fieldOr _ Document.writable_null
  constructor
  case users =>
    intro user member
    obtain ⟨item, present, read⟩ := exists_related users.flip member
    exact ⟨User.writable_of_read ((list "user").of_items listed item present) read,
      named.users user member⟩
  case groups =>
    intro group member
    obtain ⟨item, present, read⟩ := exists_related groups.flip member
    exact ⟨Group.writable_of_read ((list "group").of_items grouped item present) read,
      named.groups group member⟩
  case firewall =>
    intro known present
    rw [present] at firewall
    exact Firewall.writable_of_read (given "firewall") (read_of_readSection firewall)
  case services =>
    intro known present
    rw [present] at services
    exact Services.writable_of_read (given "services") (read_of_readSection services)

end Blueprint

section Table

variable {data : Document} {filesystem : Filesystem} {partition : Partition}
  {table : PartitionTable} {limit : Nat}

/-- The document of a partition without its position and its size. -/
def Partition.withoutExtent (data : Document) : Document :=
  (data.blank "start").blank "size"

/-- The document of a table without the positions and sizes of its partitions. -/
def PartitionTable.withoutExtents (data : Document) : Document :=
  data.changeField "partitions" fun partitions => partitions.eachItem Partition.withoutExtent

theorem Filesystem.writable_of_read (writable : data.Writable)
    (read : Filesystem.ofDocument data = .ok filesystem) : filesystem.toDocument.Writable := by
  obtain ⟨_, _, rfl⟩ := Filesystem.ofDocument_ok_iff.mp read
  have field (name : String) : (data.fieldOr name .null).Writable :=
    writable.fieldOr _ Document.writable_null
  have uuid : (data.fieldOr "uuid" (.text [])).Writable :=
    writable.fieldOr _ (Document.writable_text [])
  simp [Filesystem.toDocument, field, uuid]

theorem Partition.exact_of_read (readable : data.Throughout (Document.Readable limit))
    (writable : (Partition.withoutExtent data).Writable)
    (read : Partition.ofDocument data = .ok partition) : partition.Exact := by
  obtain ⟨_, start, size, type, _, uuid, filesystem⟩ := Partition.ofDocument_ok_iff.mp read
  have field (name : String) {default : Document} (apart : "start" ≠ name ∧ "size" ≠ name)
      (fallback : default.Writable) : (data.fieldOr name default).Writable := by
    have kept := writable.fieldOr name fallback
    rwa [Partition.withoutExtent, Document.fieldOr_blank_of_ne apart.2,
      Document.fieldOr_blank_of_ne apart.1] at kept
  have extent (name : String) : (data.fieldOr name (.int 0)).Throughout
      (Document.Readable limit) := readable.fieldOr Document.readable_int_zero
  constructor
  case start => exact Document.writable_int_iff.mpr ((extent "start").toInteger_lt start)
  case size => exact Document.writable_int_iff.mpr ((extent "size").toInteger_lt size)
  case type => exact type ▸ field "type" (by decide) (Document.writable_text "")
  case uuid => exact uuid ▸ field "uuid" (by decide) (Document.writable_text "")
  case filesystem =>
    intro mounted present
    rw [present] at filesystem
    exact Filesystem.writable_of_read (field "filesystem" (by decide) Document.writable_null)
      (read_of_readGiven filesystem)

theorem PartitionTable.writable_of_read (readable : data.Throughout (Document.Readable limit))
    (writable : (PartitionTable.withoutExtents data).Writable)
    (read : PartitionTable.ofDocument data = .ok table) :
    table.toDocument.Writable ∧ table.partitions.length ≤ limit := by
  obtain ⟨_, type, uuid, items, yields, each⟩ := PartitionTable.ofDocument_ok_iff.mp read
  have field (name : String) (apart : "partitions" ≠ name) :
      (data.fieldOr name (.text "")).Writable := by
    have kept := writable.fieldOr name (Document.writable_text "")
    rwa [PartitionTable.withoutExtents, Document.fieldOr_changeField_of_ne apart] at kept
  have listed (item : Document) (member : item ∈ items) :
      data.fieldOr "partitions" (.list []) = .list items := by
    obtain ⟨partition, _, read⟩ := exists_related each member
    exact Document.items_ok_of_isObject yields member (Partition.ofDocument_ok_iff.mp read).object
  have extents : (data.fieldOr "partitions" (.list [])).Throughout
      (Document.Readable limit) := readable.fieldOr (.list (Nat.zero_le _) (by simp))
  have others : ((data.fieldOr "partitions" (.list [])).eachItem
      Partition.withoutExtent).Writable := by
    have kept := writable.fieldOr "partitions" Document.writable_nil
    rwa [PartitionTable.withoutExtents, Document.fieldOr_changeField rfl] at kept
  constructor
  · refine PartitionTable.writable_iff.mpr ⟨type ▸ field "type" (by decide),
      uuid ▸ field "uuid" (by decide), fun partition member => ?_⟩
    obtain ⟨item, present, read⟩ := exists_related each.flip member
    rw [listed item present] at extents others
    have bare := Document.writable_list_iff.mp others (Partition.withoutExtent item)
      (List.mem_map_of_mem present)
    exact Partition.exact_of_read (extents.of_mem item present) bare read
  · rw [← each.length_eq]
    cases items with
    | nil => exact Nat.zero_le _
    | cons first rest =>
        rw [listed first (by simp)] at extents
        exact extents.here

end Table

namespace BuildRequest

variable {data : Document} {request : BuildRequest} {limit : Nat}

/-- The document of a request without the positions and sizes of partitions. -/
def withoutExtents (data : Document) : Document :=
  data.changeField "partition_table" PartitionTable.withoutExtents

/-- The names of accounts are texts, and no numbers are real but positions and sizes of
partitions. -/
structure Plain (data : Document) : Prop where
  realFree : (withoutExtents data).RealFree
  named : ∀ request, ofDocument data = .ok request → request.context.customizations.Named

theorem readable_withoutExtents (readable : data.Throughout (Document.Readable limit)) :
    (withoutExtents data).Throughout (Document.Readable limit) :=
  readable.changeField fun table => table.changeField fun partitions =>
    partitions.eachItem fun partition => partition.blank.blank

/-- What is read from a plain document can be written. -/
theorem writable_of_read (readable : data.Throughout (Document.Readable limit))
    (short : limit ≤ 10 ^ Json.integerDigitLimit) (plain : Plain data)
    (read : ofDocument data = .ok request) :
    request.context.Writable ∧ ∀ stage ∈ request.stages, (Document.object stage).Writable := by
  obtain ⟨_, _, arch, planned, customized, ⟨items, yields, each⟩, listed⟩ :=
    ofDocument_ok_iff.mp read
  have writable := (readable_withoutExtents readable).writable plain.realFree
  have field (name : String) {default : Document} (apart : "partition_table" ≠ name)
      (fallback : default.Writable) : (data.fieldOr name default).Writable := by
    have kept := writable.fieldOr name fallback
    rwa [withoutExtents, Document.fieldOr_changeField_of_ne apart] at kept
  have stages := field "stages" (by decide) Document.writable_nil
  refine ⟨?_, ?_⟩
  · constructor
    case arch => exact arch ▸ field "arch" (by decide) Document.writable_null
    case table =>
      intro table present
      rw [present] at planned
      have extents : (data.fieldOr "partition_table" .null).Throughout
          (Document.Readable limit) := readable.fieldOr Document.readable_null
      have others := writable.fieldOr "partition_table" Document.writable_null
      rw [withoutExtents, Document.fieldOr_changeField rfl] at others
      obtain ⟨exact, count⟩ :=
        PartitionTable.writable_of_read extents others (read_of_readGiven planned)
      exact ⟨exact, Nat.le_trans count short⟩
    case customizations =>
      have given := field "customizations" (by decide) Document.writable_null
      exact Customizations.writable_of_read (given.orElse Document.writable_empty)
        (plain.named request read) customized
    case repositories =>
      intro repository member
      obtain ⟨item, present, read⟩ := exists_related each.flip member
      have repositories := field "repos" (by decide) Document.writable_nil
      exact Repository.writable_of_read (repositories.of_items yields item present) read
  · rw [listed, Document.writable_list_iff, List.forall_mem_map] at stages
    exact stages

end BuildRequest

end ImageStages
