import ImageStages.Document.Access

namespace ImageStages

structure Filesystem where
  type : Document
  uuid : Document
  mountpoint : Document
  label : Document

/-- Only positions, sizes and the boot flag are converted when a table is read; the other
fields keep whatever the planner gave. -/
structure Partition where
  start : Int
  size : Int
  type : Document
  bootable : Bool
  uuid : Document
  filesystem : Option Filesystem

structure PartitionTable where
  type : Document
  uuid : Document
  partitions : List Partition

namespace Filesystem

def ofDocument (data : Document) : Except Mishap Filesystem := do
  let type ← data.index "type"
  let uuid ← data.lookupOr "uuid" (.text "")
  let mountpoint ← data.index "mountpoint"
  let label ← data.lookupOr "label" .null
  return { type, uuid, mountpoint, label }

def toDocument (filesystem : Filesystem) : Document :=
  .record [
    ("type", filesystem.type),
    ("uuid", filesystem.uuid),
    ("mountpoint", filesystem.mountpoint),
    ("label", filesystem.label)]

end Filesystem

namespace Partition

def ofDocument (data : Document) : Except Mishap Partition := do
  let filesystem ← data.lookupOr "filesystem" .null
  let start ← (← data.lookupOr "start" (.int 0)).toInteger
  let size ← (← data.lookupOr "size" (.int 0)).toInteger
  let type ← data.lookupOr "type" (.text "")
  let bootable ← data.lookupOr "bootable" (.bool false)
  let uuid ← data.lookupOr "uuid" (.text "")
  let filesystem ←
    if filesystem.given then (Filesystem.ofDocument filesystem).map some else .ok none
  return { start, size, type, bootable := bootable.given, uuid, filesystem }

def toDocument (partition : Partition) : Document :=
  .record [
    ("start", .int partition.start),
    ("size", .int partition.size),
    ("type", partition.type),
    ("bootable", .bool partition.bootable),
    ("uuid", partition.uuid),
    ("filesystem", (partition.filesystem.map Filesystem.toDocument).getD .null)]

/-- Where the partition is mounted; null if it has no filesystem. -/
def mountpoint (partition : Partition) : Document :=
  match partition.filesystem with
  | some filesystem => filesystem.mountpoint
  | none => .null

end Partition

def rootMountpoint : Document := .text "/"

/-- The mountpoint of a filesystem that holds nothing but the boot files. -/
def bootMountpoint : Document := .text "/boot"

namespace PartitionTable

def ofDocument (data : Document) : Except Mishap PartitionTable := do
  let type ← data.lookupOr "type" (.text "")
  let uuid ← data.lookupOr "uuid" (.text "")
  let partitions ← (← data.lookupOr "partitions" (.list [])).items
  let partitions ← partitions.mapM Partition.ofDocument
  return { type, uuid, partitions }

def toDocument (table : PartitionTable) : Document :=
  .record [
    ("type", table.type),
    ("uuid", table.uuid),
    ("partitions", .list (table.partitions.map Partition.toDocument))]

def find? (table : PartitionTable) (mountpoint : Document) : Option Nat :=
  table.partitions.findIdx? (·.mountpoint.same mountpoint)

/-- The partition that holds the boot files: a dedicated one, else that of the root
filesystem. -/
def bootIndex? (table : PartitionTable) : Option Nat :=
  (table.find? bootMountpoint).or (table.find? rootMountpoint)

/-- The index of the boot partition, which a stage cannot do without. -/
def bootIndex (table : PartitionTable) (stageType : Document) : Except Failure Nat :=
  match table.bootIndex? with
  | some index => .ok index
  | none => .error (.invariant (.missingPartition stageType bootMountpoint))

def at? (table : PartitionTable) (mountpoint : Document) : Option Partition :=
  (table.find? mountpoint).bind (table.partitions[·]?)

def root? (table : PartitionTable) : Option Partition :=
  table.at? rootMountpoint

def boot? (table : PartitionTable) : Option Partition :=
  table.at? bootMountpoint

end PartitionTable

end ImageStages
