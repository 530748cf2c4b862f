import ImageStages.Medium.Architecture
import ImageStages.Medium.Label
import ImageStages.Outcome
import ImageStages.Settings
import ImageStages.Stage.Record

namespace ImageStages.Medium

def installerStage : String := "org.osbuild.bootiso.mono"

def liveStage : String := "org.osbuild.grub2.iso"

def kickstartPath : String := "/osbuild.ks"

def rootfsSize : Int := 9216

structure Branding where
  vendor : Document
  product : Document
  version : Document
  label : Document

def Branding.productRecord (branding : Branding) : Document :=
  .record [("name", branding.product), ("version", branding.version)]

def installerNote (arch : Document) (names : List Text) (legacy : Bool) : Note :=
  Logger.iso.note .debug
    ("bootiso.mono " ++ arch.inText ++ ": efi=" ++ (Document.texts names).quoted ++ " isolinux=" ++
      (Document.bool legacy).quoted)

def installerOptions (settings : Settings) (kernelVersion arch : Document)
    (branding : Branding) : Outcome Fields := do
  let names ← efiNames arch (.text installerStage)
  let filter ← codeFilter arch
  let legacy ← hasLegacyLoader arch
  Outcome.note (installerNote arch names legacy)
  let compression := filter.toList.map fun name : String => (("bcj" : Text), Document.text name)
  return options [
    ("product", branding.productRecord),
    ("isolabel", branding.label),
    ("kernel", kernelVersion),
    ("kernel_opts", .text ("inst.ks=hd:LABEL=" ++ branding.label.inText ++ ":" ++ kickstartPath)),
    ("efi", .record [("architectures", .texts names), ("vendor", branding.vendor)]),
    ("isolinux", .record [("enabled", .bool legacy), ("debug", .bool false)]),
    ("templates", .text (settings.text .bootisoTemplates)),
    ("rootfs", .record [
      ("size", .int rootfsSize),
      ("compression", .record [("method", .text "xz"), ("options", .record compression)])])]

/-- The kernel command line of a live medium, between what it always needs and what
tells where the image lies. -/
def liveKernelOptions (installDevice label : Document) : List Text :=
  ["rd.neednet=1", "console=tty0", "console=ttyS0", "systemd.log_target=console",
    "systemd.journald.forward_to_console=1",
    "edge.liveiso=" ++ label.inText,
    "coreos.inst.install_dev=" ++ installDevice.inText,
    "coreos.inst.image_file=/run/media/iso/disk.img.xz",
    "coreos.inst.insecure"]

def liveOptions (settings : Settings) (installDevice arch : Document) (branding : Branding) :
    Except Failure Fields := do
  let names ← efiNames arch (.text liveStage)
  return options [
    ("product", branding.productRecord),
    ("isolabel", branding.label),
    ("kernel", .record [
      ("dir", .text (settings.text .kernelImageDir)),
      ("opts", .texts (liveKernelOptions installDevice branding.label))]),
    ("architectures", .texts names),
    ("vendor", branding.vendor)]

def discinfoOptions (settings : Settings) (arch release : Document) : Fields :=
  options [
    ("basearch", arch),
    ("release", release.orElse (.text (settings.text .discinfoRelease)))]

/-- How a medium is made bootable for legacy firmware. -/
def legacyBoot : List (Text × Document) := [
  ("boot", .record [
    ("image", .text "isolinux/isolinux.bin"),
    ("catalog", .text "isolinux/boot.cat")]),
  ("isohybridmbr", .text "/usr/share/syslinux/isohdpfx.bin")]

def assemblyOptions (filename label arch legacy : Document) : Except Failure Fields := do
  let volume ← volumeId label arch
  let boot := if legacy.given then legacyBoot else []
  return options (("filename", filename) :: ("volid", volume) :: ("sysid", .text "LINUX") ::
    ("efi", .text "images/efiboot.img") :: boot)

/-- The record of a format.  Only qcow2 has levels of compatibility; one that is
given for another format is ignored. -/
def formatRecord (format compat : Document) : Except Failure Fields :=
  if format.same (.text "qcow2") then
    .ok (options (("type", .text "qcow2") ::
      (if compat.given then [("compat", compat)] else [])))
  else if format.same (.text "vpc") ∨ format.same (.text "vmdk") then
    .ok (options [("type", format)])
  else .error (.invariant (.imageFormat format))

def conversionOptions (filename format compat : Document) : Except Failure Fields := do
  let record ← formatRecord format compat
  return options [("filename", filename), ("format", .object record)]

end ImageStages.Medium
