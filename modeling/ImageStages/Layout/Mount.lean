import ImageStages.Layout.Table
import ImageStages.Outcome
import ImageStages.Stage.Record
import ImageStages.Text.Segments

namespace ImageStages.Layout

/-! From a partition table to devices and mounts.

A loopback device exposes each partition of the image file.  A device is named for
the last segment of its partition's mountpoint, and the mounts that a copy fills
are in the order of their targets, so that a directory is mounted before what lies
below it. -/

def loopbackType : String := "org.osbuild.loopback"

/-- The device of a filesystem that is mounted at the root. -/
def rootDevice : String := "root"

/-- A device that exposes `size` units of a file from `start` on. -/
def loopback (filename start size : Document) : Document :=
  .record [
    ("type", .text loopbackType),
    ("options", .record [("filename", filename), ("start", start), ("size", size)])]

structure Mount where
  type : String
  name : Document
  source : Document
  target : Document

def Mount.toDocument (mount : Mount) : Document :=
  .record [
    ("name", mount.name),
    ("type", .text mount.type),
    ("source", mount.source),
    ("target", mount.target)]

inductive MountType where
  | xfs | fat | ext4 | btrfs
deriving DecidableEq

namespace MountType

def name : MountType → String
  | .xfs => "org.osbuild.xfs"
  | .fat => "org.osbuild.fat"
  | .ext4 => "org.osbuild.ext4"
  | .btrfs => "org.osbuild.btrfs"

def ofFilesystem? (filesystemType : Scalar) : Option MountType :=
  if filesystemType = .text "xfs" then some .xfs
  else if filesystemType = .text "vfat" then some .fat
  else if filesystemType = .text "ext4" then some .ext4
  else if filesystemType = .text "btrfs" then some .btrfs
  else none

def mount (type : MountType) (name source target : Document) : Mount :=
  ⟨type.name, name, source, target⟩

end MountType

def deviceName (mountpoint : Text) : Text :=
  let name := Text.lastSegment mountpoint
  if name.isEmpty then rootDevice else name

def deviceNameOf (mountpoint : Document) : Except Mishap Text :=
  match mountpoint with
  | .scalar (.text path) => .ok (deviceName path)
  | other => .error (.noMember other.kind "rstrip")

def filesystemMount (filesystem : Filesystem) (name : Document) : Except Failure Mount := do
  let type ← filesystem.type.asKey
  match MountType.ofFilesystem? type with
  | some type => return type.mount name name filesystem.mountpoint
  | none => .error (.invariant (.filesystem filesystem.type filesystem.mountpoint))

def partitionMount (partition : Partition) (name : Document) : Except Failure Mount :=
  match partition.filesystem with
  | some filesystem => filesystemMount filesystem name
  | none => .error (.mishap (.noMember .null "type"))

def mountable (partitions : List Partition) : List (Partition × Filesystem) :=
  partitions.filterMap fun partition =>
    partition.filesystem.map fun filesystem => (partition, filesystem)

/-- What a partition adds to the devices and to the mounts. -/
structure Resolved where
  name : Text
  device : Document
  mount : Mount

def resolve (filename : Document) (entry : Partition × Filesystem) :
    Except Failure Resolved := do
  let name ← deviceNameOf entry.2.mountpoint
  let mount ← filesystemMount entry.2 (.text name)
  return ⟨name, loopback filename (.int entry.1.start) (.int entry.1.size), mount⟩

def targetText (mount : Mount) : Text :=
  mount.target.inText

def resolveAll (filename : Document) (partitions : List Partition) :
    Except Failure (List Resolved) :=
  (mountable partitions).mapM (resolve filename)

/-- Mounts in the order of their targets; equal targets keep their order. -/
def sortMounts (mounts : List Mount) : List Mount :=
  mounts.mergeSort fun left right => !decide (targetText right < targetText left)

def backingFile (device : Document) : Except Failure Document := do
  let type ← device.lookup "type"
  if (type.getD .null).same (.text loopbackType) then
    let deviceOptions ← device.lookupOr "options" (.object [])
    deviceOptions.lookupOr "filename" (.text "")
  else .error (.invariant (.device (type.getD (.text ""))))

structure CopyPlan where
  options : Fields
  devices : Fields
  mounts : List Mount

def resolvedNote (mounts : List Mount) : Note :=
  Logger.disk.note .debug
    (s!"Resolved {decimal mounts.length} mounts: " ++
      (Text.ofString ", ").intercalate (mounts.map targetText))

/-- How a copy fills the filesystems of an image from a tree. -/
def copyPlan (inputName : Document) (table : PartitionTable) (device : Document) :
    Outcome CopyPlan := do
  let filename ← backingFile device
  let resolved ← resolveAll filename table.partitions
  let devices := Fields.ofPairs (resolved.map fun entry => (.text entry.name, entry.device))
  let mounts := sortMounts (resolved.map (·.mount))
  Outcome.note (resolvedNote mounts)
  return {
    options := ImageStages.options [("paths", .list [.record [
      ("from", .text ("input://" ++ inputName.inText ++ "/")),
      ("to", .text "mount://root/")]])]
    devices
    mounts }

/-- The stage that copies the tree of another pipeline into the image. -/
def copyStage (inputName pipeline : Document) (table : PartitionTable) (device : Document) :
    Outcome Stage := do
  let plan ← copyPlan inputName table device
  let input ← inputName.asKey
  return {
    type := "org.osbuild.copy"
    options := plan.options
    inputs := some [(input, .record [
      ("type", .text "org.osbuild.tree"),
      ("origin", .text "org.osbuild.pipeline"),
      ("references", .texts ["name:" ++ pipeline.inText])])]
    devices := some plan.devices
    mounts := some (plan.mounts.map Mount.toDocument) }

/-- The description of a table that is written to the image, without the values
that go without saying. -/
def describePartition (partition : Partition) : Document :=
  .object (Fields.setFields (options [
    ("bootable", if partition.bootable then .bool true else .null),
    ("size", .int partition.size),
    ("start", .int partition.start),
    ("type", partition.type.orElse .null),
    ("uuid", partition.uuid.orElse .null)]))

def describeTable (table : PartitionTable) : Fields :=
  Fields.setFields (options [
    ("label", table.type),
    ("uuid", table.uuid.orElse .null),
    ("partitions", .list (table.partitions.map describePartition))])

end ImageStages.Layout
