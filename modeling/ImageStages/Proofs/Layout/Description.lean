import ImageStages.Proofs.Boot.Partition
import ImageStages.Proofs.Document.Keys
import ImageStages.Proofs.Layout.Reading

namespace ImageStages

/-! The description of a partition table, as it is written to the image.

A description leaves out what goes without saying, and that is just what a reader puts in
for a field that is not there.  So it reads back as the table that it describes, without the
filesystems, and its records stand at the indices of their partitions. -/

namespace Document

variable {value default : Document} {fields : Fields} {name : String}

theorem isUnset_of_given (given : value.given = true) : value.isUnset = false := by
  cases unset : value.isUnset with
  | false => rfl
  | true =>
      rw [given_of_isUnset unset] at given
      contradiction

/-- A field of a record without its unset fields, for a reader who knows what stands for a
field that is not there. -/
theorem fieldOr_setFields (distinct : fields.Distinct) :
    (object fields.setFields).fieldOr name default =
      ((fields.find? (.text name)).filter (!·.isUnset)).getD default := by
  rw [fieldOr, Fields.find?_setFields distinct]

/-- A value that is left out when it counts as not given reads back, where that which stands
for it is the value. -/
theorem getD_orElse_null (omitted : value.given = false → value = default) :
    ((some (value.orElse .null)).filter (!·.isUnset)).getD default = value := by
  cases given : value.given with
  | false =>
      rw [orElse, given, if_neg Bool.false_ne_true, omitted given]
      rfl
  | true =>
      rw [orElse, given, if_pos rfl, Option.filter_some, isUnset_of_given given]
      rfl

theorem IsText.eq_empty_of_not_given (text : value.IsText) (absent : value.given = false) :
    value = .text "" := by
  obtain ⟨s, rfl⟩ := text
  have empty : s = "" := by simpa [given, Scalar.given] using absent
  rw [empty]

theorem IsText.isUnset (text : value.IsText) : value.isUnset = false := by
  obtain ⟨s, rfl⟩ := text
  rfl

end Document

/-- The labels of a table and of its partitions are texts. -/
structure PartitionTable.Labelled (table : PartitionTable) : Prop where
  type : table.type.IsText
  uuid : table.uuid.IsText
  partitions : ∀ partition ∈ table.partitions, partition.type.IsText ∧ partition.uuid.IsText

namespace Layout

variable {partition : Partition} {table : PartitionTable}

/-- The fields of a record tell these facts about a partition.  A label that is not there is
empty, a boot flag that is not there is unset, and there is no filesystem. -/
structure Describes (record : Document) (partition : Partition) : Prop where
  object : record.IsObject
  start : ∀ default, record.fieldOr "start" default = .int partition.start
  size : ∀ default, record.fieldOr "size" default = .int partition.size
  type : record.fieldOr "type" (.text "") = partition.type
  uuid : record.fieldOr "uuid" (.text "") = partition.uuid
  bootable : record.fieldOr "bootable" (.bool false) = .bool partition.bootable
  filesystem : ∀ default, record.fieldOr "filesystem" default = default

theorem describePartition_describes (type : partition.type.IsText)
    (uuid : partition.uuid.IsText) : Describes (describePartition partition) partition := by
  have distinct : Fields.Distinct (options [
      ("bootable", if partition.bootable then .bool true else .null),
      ("size", .int partition.size),
      ("start", .int partition.start),
      ("type", partition.type.orElse .null),
      ("uuid", partition.uuid.orElse .null)]) := by
    simp [Fields.Distinct, options, Fields.sameKey, Scalar.same]
  refine ⟨⟨_, rfl⟩, fun _ => ?_, fun _ => ?_, ?_, ?_, ?_, fun _ => ?_⟩ <;>
    rw [describePartition, Document.fieldOr_setFields distinct]
  · rfl
  · rfl
  · exact Document.getD_orElse_null type.eq_empty_of_not_given
  · exact Document.getD_orElse_null uuid.eq_empty_of_not_given
  · cases flag : partition.bootable <;> rfl
  · rfl

/-- A record reads back as the partition that it describes, without the filesystem. -/
theorem Describes.ofDocument {record : Document} (describes : Describes record partition) :
    Partition.ofDocument record = .ok { partition with filesystem := none } := by
  refine Partition.ofDocument_ok_iff.mpr {
    object := describes.object
    start := ?_
    size := ?_
    type := describes.type
    bootable := ?_
    uuid := describes.uuid
    filesystem := ?_ }
  · rw [describes.start]
    rfl
  · rw [describes.size]
    rfl
  · rw [describes.bootable]
    rfl
  · rw [describes.filesystem]
    rfl

end Layout

namespace PartitionTable

variable {table : PartitionTable}

def withoutFilesystems (table : PartitionTable) : PartitionTable :=
  { table with
    partitions := table.partitions.map fun partition => { partition with filesystem := none } }

/-- The table that a description spells out: its type stands as the label, an identifier that
is not there is empty, and partitions that are not there are none. -/
def ofDescription (description : Document) : Except Mishap PartitionTable := do
  let label ← description.index "label"
  let uuid ← description.lookupOr "uuid" (.text "")
  let partitions ← description.lookupOr "partitions" (.list [])
  ofDocument (.record [("type", label), ("uuid", uuid), ("partitions", partitions)])

end PartitionTable

namespace Layout

variable {table : PartitionTable}

/-- The fields of a description tell these facts about a table. -/
structure DescribesTable (description : Document) (table : PartitionTable) : Prop where
  label : description.Has "label" ∧ description.fieldOr "label" .null = table.type
  uuid : description.fieldOr "uuid" (.text "") = table.uuid
  partitions : description.fieldOr "partitions" (.list []) =
    .list (table.partitions.map describePartition)

theorem describeTable_describes (labelled : table.Labelled) :
    DescribesTable (.object (describeTable table)) table := by
  have distinct : Fields.Distinct (options [
      ("label", table.type),
      ("uuid", table.uuid.orElse .null),
      ("partitions", .list (table.partitions.map describePartition))]) := by
    simp [Fields.Distinct, options, Fields.sameKey, Scalar.same]
  have label : Fields.find? (describeTable table) (.text "label") = some table.type := by
    rw [describeTable, Fields.find?_setFields distinct]
    change (some table.type).filter (!·.isUnset) = some table.type
    rw [Option.filter_some, labelled.type.isUnset]
    rfl
  refine ⟨⟨⟨_, _, rfl, label⟩, ?_⟩, ?_, ?_⟩
  · rw [Document.fieldOr, label]
    rfl
  · rw [describeTable, Document.fieldOr_setFields distinct]
    exact Document.getD_orElse_null labelled.uuid.eq_empty_of_not_given
  · rw [describeTable, Document.fieldOr_setFields distinct]
    cases table.partitions <;> rfl

/-- A description reads back as the table that it describes, without the filesystems. -/
theorem DescribesTable.ofDescription {description : Document}
    (describes : DescribesTable description table) (labelled : table.Labelled) :
    PartitionTable.ofDescription description = .ok table.withoutFilesystems := by
  obtain ⟨⟨present, label⟩, uuid, partitions⟩ := describes
  have object := present.isObject
  have each : List.Forall₂ (fun record partition => Partition.ofDocument record = .ok partition)
      (table.partitions.map describePartition) table.withoutFilesystems.partitions := by
    rw [PartitionTable.withoutFilesystems, List.forall₂_map_left_iff,
      List.forall₂_map_right_iff, List.forall₂_same]
    intro partition member
    obtain ⟨type, uuid⟩ := labelled.partitions partition member
    exact (describePartition_describes type uuid).ofDocument
  have read : PartitionTable.ofDocument (.record [("type", table.type), ("uuid", table.uuid),
      ("partitions", .list (table.partitions.map describePartition))]) =
        .ok table.withoutFilesystems :=
    PartitionTable.ofDocument_ok_iff.mpr ⟨⟨_, rfl⟩, rfl, rfl, _, rfl, each⟩
  simp only [PartitionTable.ofDescription, Document.index_ok_iff.mpr ⟨present, label⟩,
    Document.lookupOr_of_isObject object, uuid, partitions, Except.ok_bind, read]

/-- The record of a description at an index describes the partition at the index. -/
theorem record_describes {index : Nat} {partition : Partition} (labelled : table.Labelled)
    (present : table.partitions[index]? = some partition) :
    ∃ record, (table.partitions.map describePartition)[index]? = some record ∧
      Describes record partition := by
  obtain ⟨type, uuid⟩ := labelled.partitions partition (List.mem_of_getElem? present)
  refine ⟨describePartition partition, ?_, describePartition_describes type uuid⟩
  rw [List.getElem?_map, present]
  rfl

end Layout

namespace Catalog

variable {surroundings : Surroundings} {context : Context} {table : PartitionTable}
  {fields : Fields} {stage : Stage}

theorem describedTable_of_rendered (planned : context.table = some table)
    (rendered : (renderStage surroundings context StageType.partitionTable.name fields).result =
      .ok stage) : stage.options = Layout.describeTable table := by
  rw [result_renderStage, render_of_ne_copy (by simp)] at rendered
  simp only [StageType.renderOptions, StageType.renderTable, StageType.tableFor, planned,
    Outcome.result_bind, Outcome.result_lift, Outcome.result_pure, Except.ok_bind,
    Except.pure_eq_ok, Except.ok.injEq] at rendered
  obtain rfl := rendered
  rfl

/-- The number of the partition that the core image boots from is an index of the table. -/
theorem prefixNumber_of_rendered (planned : context.table = some table)
    (rendered : (renderStage surroundings context StageType.grubCore.name fields).result =
      .ok stage) :
    ∃ index partition, stage.option? ["prefix", "number"] = some (.int (index : Nat)) ∧
      table.partitions[index]? = some partition := by
  rw [result_renderStage, render_of_ne_copy (by simp)] at rendered
  simp only [StageType.renderOptions, StageType.renderGrubCore, StageType.tableFor, planned,
    Outcome.result_bind, Outcome.result_lift, Outcome.result_pure, Except.bind_eq_ok_iff,
    Except.ok.injEq, exists_eq_left'] at rendered
  obtain ⟨options, ⟨filename, _, platform, _, made⟩, rfl⟩ := rendered
  cases found : table.bootIndex? with
  | none => simp [Boot.grubCoreOptions, PartitionTable.bootIndex, found] at made
  | some index =>
      obtain ⟨partition, _, boots⟩ := PartitionTable.bootsFrom_of_bootIndex? found
      obtain ⟨fields, same, number, _⟩ :=
        Boot.grubCoreOptions_of_bootsFrom boots (.text filename) (.text platform)
      obtain rfl : fields = options := Except.ok.inj (same.symm.trans made)
      exact ⟨index, partition, number, boots.present⟩

end Catalog

namespace Layout

/-- The description of a table whose labels are texts is faithful: it reads back as the table
without its filesystems, and its records stand at the indices of their partitions, so that the
number in the options of the core image of grub2 is that of the record of its partition. -/
theorem describeTable_faithful {table : PartitionTable} (labelled : table.Labelled) :
    PartitionTable.ofDescription (.object (describeTable table)) =
      .ok table.withoutFilesystems ∧
    ∃ records, (Document.object (describeTable table)).fieldOr "partitions" (.list []) =
        .list records ∧
      records.length = table.partitions.length ∧
      (∀ (index : Nat) (partition : Partition), table.partitions[index]? = some partition →
        ∃ record, records[index]? = some record ∧ Describes record partition) ∧
      ∀ surroundings (context : Context) fields description coreFields core,
        context.table = some table →
        (Catalog.renderStage surroundings context StageType.partitionTable.name fields).result =
          .ok description →
        (Catalog.renderStage surroundings context StageType.grubCore.name coreFields).result =
          .ok core →
        description.options = describeTable table ∧
        ∃ (index : Nat) (partition : Partition) (record : Document),
          core.option? ["prefix", "number"] = some (.int index) ∧
          table.partitions[index]? = some partition ∧ records[index]? = some record ∧
          Describes record partition := by
  have describes := describeTable_describes labelled
  refine ⟨describes.ofDescription labelled, _, describes.partitions, by simp, ?_, ?_⟩
  · intro index partition present
    exact record_describes labelled present
  · intro surroundings context fields description coreFields core planned described rendered
    obtain ⟨index, partition, number, present⟩ :=
      Catalog.prefixNumber_of_rendered planned rendered
    obtain ⟨record, stands, tells⟩ := record_describes labelled present
    exact ⟨Catalog.describedTable_of_rendered planned described, index, partition, record,
      number, present, stands, tells⟩

theorem bootLast_labelled : Catalog.bootLast.Labelled where
  type := Catalog.bootLast_wellTyped.type
  uuid := Catalog.bootLast_wellTyped.uuid
  partitions := fun partition member =>
    ⟨(Catalog.bootLast_wellTyped.partitions partition member).type,
      (Catalog.bootLast_wellTyped.partitions partition member).uuid⟩

/-- The description of a table with empty labels, with a partition that has no filesystem and
one that is bootable. -/
theorem describeTable_faithful_bootLast :
    Catalog.bootLast.Labelled ∧
    PartitionTable.ofDescription (.object (describeTable Catalog.bootLast)) =
      .ok Catalog.bootLast.withoutFilesystems ∧
    ∃ records core, (Document.object (describeTable Catalog.bootLast)).fieldOr "partitions"
        (.list []) = .list records ∧
      (Catalog.renderStage ⟨.builtin, "salt", "token"⟩ (Catalog.plainContext Catalog.bootLast)
        "org.osbuild.grub2.inst" [(.text "filename", .text "disk.img"),
          (.text "platform", .text "i386-pc")]).result = .ok core ∧
      ∃ (index : Nat) (partition : Partition) (record : Document),
        core.option? ["prefix", "number"] = some (.int index) ∧
        Catalog.bootLast.partitions[index]? = some partition ∧
        records[index]? = some record ∧ Describes record partition := by
  obtain ⟨readBack, records, listed, _, _, numbered⟩ :=
    describeTable_faithful bootLast_labelled
  obtain ⟨description, described⟩ : ∃ description, (Catalog.renderStage
      ⟨.builtin, "salt", "token"⟩ (Catalog.plainContext Catalog.bootLast)
      StageType.partitionTable.name []).result = .ok description := by
    rw [Catalog.result_renderStage]
    exact ⟨_, rfl⟩
  obtain ⟨core, rendered⟩ : ∃ core, (Catalog.renderStage ⟨.builtin, "salt", "token"⟩
      (Catalog.plainContext Catalog.bootLast) StageType.grubCore.name
      [(.text "filename", .text "disk.img"), (.text "platform", .text "i386-pc")]).result =
        .ok core := by
    rw [Catalog.result_renderStage]
    exact ⟨_, rfl⟩
  obtain ⟨_, found⟩ := numbered ⟨.builtin, "salt", "token"⟩
    (Catalog.plainContext Catalog.bootLast) [] description _ core rfl described rendered
  exact ⟨bootLast_labelled, readBack, records, core, listed, rendered, found⟩

end Layout

end ImageStages
