import ImageStages.Blueprint.Customizations
import ImageStages.Identifier
import ImageStages.Layout.Table
import ImageStages.Outcome
import ImageStages.Stage.Record

namespace ImageStages.Boot

def grubStage : String := "org.osbuild.grub2"

def grubCoreStage : String := "org.osbuild.grub2.inst"

def ziplStage : String := "org.osbuild.zipl.inst"

/-- The machine id of the saved entry that stands for any machine. -/
def savedEntryMachine : String := String.ofList (List.replicate 32 'f')

def savedEntry (kernelVersion : Document) : Text :=
  savedEntryMachine ++ "-" ++ kernelVersion.inText

structure GrubRequest where
  kernelOptions : Document
  kernel : Option Kernel
  kernelVersion : Document
  uefi : Document
  legacy : Document
  vendor : Document
  install : Document

namespace GrubRequest

/-- The kernel command line with what the blueprint appends to it. -/
def commandLine (request : GrubRequest) : Document :=
  match request.kernel with
  | some kernel =>
      if kernel.append.given then
        .text (request.kernelOptions.inText ++ " " ++ kernel.append.inText)
      else request.kernelOptions
  | none => request.kernelOptions

/-- Firmware is either UEFI or a legacy platform, if one is named. -/
def firmware (request : GrubRequest) : List (Text × Document) :=
  if request.uefi.given then
    [("uefi", .record [("vendor", request.vendor), ("install", request.install)])]
  else if request.legacy.given then [("legacy", request.legacy)]
  else []

def defaultEntry (request : GrubRequest) : List (Text × Document) :=
  if request.kernelVersion.given then
    [("saved_entry", .text (savedEntry request.kernelVersion))]
  else []

end GrubRequest

def filesystemOf (partition : Option Partition) : Option Filesystem :=
  partition.bind (·.filesystem)

def grubOptions (root boot : Option Partition) (request : GrubRequest) :
    Except Failure Fields :=
  match filesystemOf root with
  | none => .error (.invariant (.missingPartition (.text grubStage) rootMountpoint))
  | some rootFilesystem => do
      let rootId ← Identifier.parse rootFilesystem.uuid
      let bootId ←
        match filesystemOf boot with
        | some bootFilesystem => do
            let id ← Identifier.parse bootFilesystem.uuid
            pure [(("boot_fs_uuid" : Text), Document.text id)]
        | none => pure []
      let given : List (Text × Document) :=
        ("kernel_opts", request.commandLine) :: (request.firmware ++ request.defaultEntry)
      return options (("root_fs_uuid", .text rootId) :: (bootId ++ given))

/-- Where grub2 finds its files on the boot filesystem: a dedicated one holds them
at its top. -/
def grubDirectory (bootFilesystem : Filesystem) : String :=
  if bootFilesystem.mountpoint.same bootMountpoint then "/grub2" else "/boot/grub2"

def grubCoreNote (directory : String) (index : Nat) : Note :=
  Logger.bootloader.note .debug s!"grub2 prefix {directory} on partition {decimal index}"

def grubCoreOptions (filename : Document) (table : PartitionTable) (platform : Document) :
    Outcome Fields := do
  let index ← table.bootIndex (.text grubCoreStage)
  match filesystemOf table.partitions[index]?, table.partitions.head? with
  | some bootFilesystem, some first => do
      let directory := grubDirectory bootFilesystem
      Outcome.note (grubCoreNote directory index)
      return options [
        ("filename", filename),
        ("platform", platform),
        ("location", .int first.start),
        ("core", .record [
          ("type", .text "mkimage"),
          ("partlabel", table.type),
          ("filesystem", bootFilesystem.type)]),
        ("prefix", .record [
          ("type", .text "partition"),
          ("partlabel", table.type),
          ("number", .int index),
          ("path", .text directory)])]
  | _, _ => Outcome.fail (.mishap (.noMember .null "mountpoint"))

def ziplOptions (kernel : Document) (table : PartitionTable) : Except Failure Fields := do
  let index ← table.bootIndex (.text ziplStage)
  match table.partitions[index]? with
  | some boot => return options [("kernel", kernel), ("location", .int boot.start)]
  | none => .error (.mishap (.noMember .null "start"))

def commandLineOptions (rootId kernelOptions : Document) : Fields :=
  options [("root_fs_uuid", rootId), ("kernel_opts", kernelOptions)]

end ImageStages.Boot
