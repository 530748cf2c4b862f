import ImageStages.Proofs.Catalog.Documented
import ImageStages.Proofs.Document.Reading

namespace ImageStages

/-- Reads a part unless it counts as not given. -/
def readGiven (read : Document → Except Mishap α) (data : Document) :
    Except Mishap (Option α) :=
  if data.given then (read data).map some else .ok none

section Given

variable {read : Document → Except Mishap α} {data : Document} {result : Option α}

theorem readGiven_succeeds (readable : data.given = true → ∃ value, read data = .ok value) :
    ∃ result, readGiven read data = .ok result := by
  cases given : data.given with
  | false => exact ⟨none, by simp [readGiven, given]⟩
  | true =>
      obtain ⟨value, success⟩ := readable given
      exact ⟨some value, by simp [readGiven, given, success]⟩

theorem readGiven_forall_iff {typed : α → Prop} {shaped : Document → Prop}
    (success : readGiven read data = .ok result)
    (agree : ∀ {value}, read data = .ok value → (typed value ↔ shaped data)) :
    (∀ value, result = some value → typed value) ↔ (data.given = true → shaped data) := by
  cases given : data.given with
  | false =>
      have none : result = none := by simpa [readGiven, given, eq_comm] using success
      simp [none]
  | true =>
      obtain ⟨value, completed, rfl⟩ : ∃ value, read data = .ok value ∧ some value = result := by
        simpa [readGiven, given] using success
      simp [agree completed]

theorem escapes_readGiven_iff :
    Escapes (readGiven read data) ↔ data.given = true ∧ Escapes (read data) := by
  cases given : data.given <;> simp [readGiven, given]

end Given

namespace Filesystem

variable {data : Document} {filesystem : Filesystem}

structure Shaped (data : Document) : Prop where
  type : (data.fieldOr "type" .null).IsText
  uuid : (data.fieldOr "uuid" (.text "")).IsText
  mountpoint : (data.fieldOr "mountpoint" .null).IsText
  label : (data.fieldOr "label" .null).IsTextOrNull

theorem ofDocument_ok_iff :
    ofDocument data = .ok filesystem ↔
      data.Has "type" ∧ data.Has "mountpoint" ∧ filesystem = {
        type := data.fieldOr "type" .null
        uuid := data.fieldOr "uuid" (.text "")
        mountpoint := data.fieldOr "mountpoint" .null
        label := data.fieldOr "label" .null } := by
  simp only [ofDocument, Except.bind_eq_ok_iff, Document.index_ok_iff,
    Document.lookupOr_ok_iff, Except.pure_eq_ok, Except.ok.injEq]
  constructor
  · rintro ⟨_, ⟨typed, rfl⟩, _, ⟨_, rfl⟩, _, ⟨placed, rfl⟩, _, ⟨_, rfl⟩, rfl⟩
    exact ⟨typed, placed, rfl⟩
  · rintro ⟨typed, placed, rfl⟩
    have object := typed.isObject
    exact ⟨_, ⟨typed, rfl⟩, _, ⟨object, rfl⟩, _, ⟨placed, rfl⟩, _, ⟨object, rfl⟩, rfl⟩

theorem ofDocument_of_shaped (shaped : Shaped data) :
    ∃ filesystem, ofDocument data = .ok filesystem := by
  have typed := Document.has_of_isText shaped.type
  have placed := Document.has_of_isText shaped.mountpoint
  exact ⟨_, ofDocument_ok_iff.mpr ⟨typed, placed, rfl⟩⟩

theorem wellTyped_iff (read : ofDocument data = .ok filesystem) :
    filesystem.WellTyped ↔ Shaped data := by
  obtain ⟨_, _, rfl⟩ := ofDocument_ok_iff.mp read
  constructor
  · intro typed
    exact ⟨typed.type, typed.uuid, typed.mountpoint, typed.label⟩
  · intro shaped
    exact ⟨shaped.type, shaped.uuid, shaped.mountpoint, shaped.label⟩

@[simp] theorem not_escapes_ofDocument : ¬ Escapes (ofDocument data) := by
  simp [ofDocument]

end Filesystem

namespace Partition

variable {data : Document} {partition : Partition}

structure Shaped (data : Document) : Prop where
  object : data.IsObject
  start : ∃ start, (data.fieldOr "start" (.int 0)).toInteger = .ok start
  size : ∃ size, (data.fieldOr "size" (.int 0)).toInteger = .ok size
  type : (data.fieldOr "type" (.text "")).IsText
  uuid : (data.fieldOr "uuid" (.text "")).IsText
  filesystem : (data.fieldOr "filesystem" .null).given = true →
    Filesystem.Shaped (data.fieldOr "filesystem" .null)

/-- The position or the size of the partition has no end, and what is read before it can
be read. -/
def Overflows (data : Document) : Prop :=
  data.IsObject ∧
    ((data.fieldOr "start" (.int 0)).IsEndless ∨
      (∃ start, (data.fieldOr "start" (.int 0)).toInteger = .ok start) ∧
        (data.fieldOr "size" (.int 0)).IsEndless)

/-- How the fields of a partition come from those of the document. -/
structure ReadFrom (data : Document) (partition : Partition) : Prop where
  object : data.IsObject
  start : (data.fieldOr "start" (.int 0)).toInteger = .ok partition.start
  size : (data.fieldOr "size" (.int 0)).toInteger = .ok partition.size
  type : data.fieldOr "type" (.text "") = partition.type
  bootable : (data.fieldOr "bootable" (.bool false)).given = partition.bootable
  uuid : data.fieldOr "uuid" (.text "") = partition.uuid
  filesystem : readGiven Filesystem.ofDocument (data.fieldOr "filesystem" .null) =
    .ok partition.filesystem

theorem ofDocument_eq : ofDocument data = do
    let filesystem ← data.lookupOr "filesystem" .null
    let start ← (← data.lookupOr "start" (.int 0)).toInteger
    let size ← (← data.lookupOr "size" (.int 0)).toInteger
    let type ← data.lookupOr "type" (.text "")
    let bootable ← data.lookupOr "bootable" (.bool false)
    let uuid ← data.lookupOr "uuid" (.text "")
    let filesystem ← readGiven Filesystem.ofDocument filesystem
    return { start, size, type, bootable := bootable.given, uuid, filesystem } := by
  unfold ofDocument readGiven
  congr!
  split <;> rfl

theorem ofDocument_ok_iff : ofDocument data = .ok partition ↔ ReadFrom data partition := by
  simp only [ofDocument_eq, Except.bind_eq_ok_iff, Document.lookupOr_ok_iff,
    Except.pure_eq_ok, Except.ok.injEq]
  constructor
  · rintro ⟨_, ⟨object, rfl⟩, _, ⟨_, rfl⟩, _, start, _, ⟨_, rfl⟩, _, size, _, ⟨_, rfl⟩, _,
      ⟨_, rfl⟩, _, ⟨_, rfl⟩, _, filesystem, rfl⟩
    exact ⟨object, start, size, rfl, rfl, rfl, filesystem⟩
  · intro fields
    obtain ⟨object, start, size, type, bootable, uuid, filesystem⟩ := fields
    refine ⟨_, ⟨object, rfl⟩, _, ⟨object, rfl⟩, _, start, _, ⟨object, rfl⟩, _, size, _,
      ⟨object, rfl⟩, _, ⟨object, rfl⟩, _, ⟨object, rfl⟩, _, filesystem, ?_⟩
    rw [type, bootable, uuid]

theorem ofDocument_of_shaped (shaped : Shaped data) :
    ∃ partition, ofDocument data = .ok partition := by
  obtain ⟨start, started⟩ := shaped.start
  obtain ⟨size, sized⟩ := shaped.size
  obtain ⟨filesystem, read⟩ := readGiven_succeeds fun given =>
    Filesystem.ofDocument_of_shaped (shaped.filesystem given)
  exact ⟨⟨start, size, _, _, _, filesystem⟩,
    ofDocument_ok_iff.mpr ⟨shaped.object, started, sized, rfl, rfl, rfl, read⟩⟩

theorem wellTyped_iff (read : ofDocument data = .ok partition) :
    partition.WellTyped ↔ Shaped data := by
  obtain ⟨object, start, size, type, _, uuid, filesystem⟩ := ofDocument_ok_iff.mp read
  have mounted := readGiven_forall_iff filesystem Filesystem.wellTyped_iff
  constructor
  · intro typed
    exact ⟨object, ⟨_, start⟩, ⟨_, size⟩, type ▸ typed.type, uuid ▸ typed.uuid,
      mounted.mp typed.filesystem⟩
  · intro shaped
    exact ⟨type ▸ shaped.type, uuid ▸ shaped.uuid, mounted.mpr shaped.filesystem⟩

theorem ofDocument_of_overflows (overflows : Overflows data) :
    ofDocument data = .error .infinite := by
  obtain ⟨object, endless⟩ := overflows
  rcases endless with start | ⟨⟨start, started⟩, size⟩
  · simp [ofDocument_eq, Document.lookupOr_of_isObject object,
      Document.toInteger_eq_infinite_iff.mpr start]
  · simp [ofDocument_eq, Document.lookupOr_of_isObject object, started,
      Document.toInteger_eq_infinite_iff.mpr size]

theorem escapes_ofDocument_iff : Escapes (ofDocument data) ↔ Overflows data := by
  constructor
  · intro escapes
    obtain ⟨object, start | ⟨started, _, size⟩⟩ : data.IsObject ∧
        ((data.fieldOr "start" (.int 0)).IsEndless ∨
          (∃ start, (data.fieldOr "start" (.int 0)).toInteger = .ok start) ∧
            data.IsObject ∧ (data.fieldOr "size" (.int 0)).IsEndless) := by
      simpa [ofDocument_eq, Document.lookupOr_ok_iff, escapes_readGiven_iff] using escapes
    · exact ⟨object, .inl start⟩
    · exact ⟨object, .inr ⟨started, size⟩⟩
  · intro overflows
    rw [ofDocument_of_overflows overflows]
    exact escapes_infinite

end Partition

namespace PartitionTable

variable {data : Document} {table : PartitionTable}

structure Shaped (data : Document) : Prop where
  object : data.IsObject
  type : (data.fieldOr "type" (.text "")).IsText
  uuid : (data.fieldOr "uuid" (.text "")).IsText
  partitions : ∃ items, (data.fieldOr "partitions" (.list [])).items = .ok items ∧
    ∀ item ∈ items, Partition.Shaped item

/-- A partition overflows, and those before it can be read. -/
def Overflows (data : Document) : Prop :=
  data.IsObject ∧ ∃ before item after,
    data.fieldOr "partitions" (.list []) = .list (before ++ item :: after) ∧
      (∀ earlier ∈ before, ∃ partition, Partition.ofDocument earlier = .ok partition) ∧
      Partition.Overflows item

theorem Overflows.given (overflows : Overflows data) : data.given = true := by
  obtain ⟨⟨fields, rfl⟩, before, item, after, listed, _⟩ := overflows
  cases fields with
  | nil => simp [Document.fieldOr, Fields.find?] at listed
  | cons field fields => rfl

theorem ofDocument_ok_iff :
    ofDocument data = .ok table ↔
      data.IsObject ∧ data.fieldOr "type" (.text "") = table.type ∧
        data.fieldOr "uuid" (.text "") = table.uuid ∧
        ∃ items, (data.fieldOr "partitions" (.list [])).items = .ok items ∧
          List.Forall₂ (fun item partition => Partition.ofDocument item = .ok partition)
            items table.partitions := by
  obtain ⟨type, uuid, partitions⟩ := table
  simp only [ofDocument, Except.bind_eq_ok_iff, Document.lookupOr_ok_iff, Except.pure_eq_ok,
    Except.ok.injEq, Except.mapM_eq_ok_iff, PartitionTable.mk.injEq]
  constructor
  · rintro ⟨_, ⟨object, rfl⟩, _, ⟨_, rfl⟩, _, ⟨_, rfl⟩, items, yields, _, each, typed, named,
      rfl⟩
    exact ⟨object, typed, named, items, yields, each⟩
  · rintro ⟨object, typed, named, items, yields, each⟩
    exact ⟨_, ⟨object, rfl⟩, _, ⟨object, rfl⟩, _, ⟨object, rfl⟩, items, yields, _, each, typed,
      named, rfl⟩

theorem ofDocument_of_shaped (shaped : Shaped data) :
    ∃ table, ofDocument data = .ok table := by
  obtain ⟨items, yields, each⟩ := shaped.partitions
  obtain ⟨partitions, read⟩ := Except.mapM_succeeds_iff.mpr fun item member =>
    Partition.ofDocument_of_shaped (each item member)
  exact ⟨⟨_, _, partitions⟩, ofDocument_ok_iff.mpr
    ⟨shaped.object, rfl, rfl, items, yields, Except.mapM_eq_ok_iff.mp read⟩⟩

theorem wellTyped_iff (read : ofDocument data = .ok table) :
    table.WellTyped ↔ Shaped data := by
  obtain ⟨object, type, uuid, items, yields, each⟩ := ofDocument_ok_iff.mp read
  have partitions := forall_mem_iff_of_read each Partition.wellTyped_iff
  constructor
  · intro typed
    exact ⟨object, type ▸ typed.type, uuid ▸ typed.uuid, items, yields,
      partitions.mp typed.partitions⟩
  · intro shaped
    obtain ⟨others, same, shapes⟩ := shaped.partitions
    obtain rfl : items = others := by simpa [yields] using same
    exact ⟨type ▸ shaped.type, uuid ▸ shaped.uuid, partitions.mpr shapes⟩

theorem ofDocument_of_overflows (overflows : Overflows data) :
    ofDocument data = .error .infinite := by
  obtain ⟨object, before, item, after, listed, readable, endless⟩ := overflows
  have failed : (before ++ item :: after).mapM Partition.ofDocument = .error .infinite :=
    Except.mapM_eq_error_iff.mpr
      ⟨before, item, after, rfl, readable, Partition.ofDocument_of_overflows endless⟩
  simp [ofDocument, Document.lookupOr_of_isObject object, listed, failed]

theorem escapes_ofDocument_iff : Escapes (ofDocument data) ↔ Overflows data := by
  constructor
  · intro escapes
    obtain ⟨object, items, yields, stuck⟩ : data.IsObject ∧ ∃ items,
        (data.fieldOr "partitions" (.list [])).items = .ok items ∧
          Escapes (items.mapM Partition.ofDocument) := by
      simpa [ofDocument, Document.lookupOr_ok_iff] using escapes
    obtain ⟨before, item, after, rfl, readable, failed⟩ := failsWith_mapM_iff.mp stuck
    have endless := Partition.escapes_ofDocument_iff.mp failed
    have listed := Document.items_ok_of_isObject yields (by simp) endless.1
    exact ⟨object, before, item, after, listed, readable, endless⟩
  · intro overflows
    rw [ofDocument_of_overflows overflows]
    exact escapes_infinite

end PartitionTable

end ImageStages
