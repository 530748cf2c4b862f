import ImageStages.Document.Access
import ImageStages.Medium.Tree
import ImageStages.Outcome
import ImageStages.Settings
import ImageStages.Stage.Record

namespace ImageStages.Installer

/-! Options of the installer's runtime: kickstart files, installer modules, templates
that run after installation, the modules of the initial file system, and the stamp
of the build. -/

def tarKickstart (url : Document) : Fields :=
  options [("path", .text Medium.kickstartPath), ("liveimg", .record [("url", url)])]

/-- A kickstart that deploys a commit.  The commit comes from a repository on the
medium itself, so signatures are not checked. -/
def commitKickstart (settings : Settings) (url ref : Document) : Fields :=
  options [
    ("path", .text Medium.kickstartPath),
    ("ostree", .record [
      ("osname", .text (settings.text .ostreeOsname)),
      ("url", url),
      ("ref", ref),
      ("gpg", .bool false)])]

def installerModules : List Text := [
  "org.fedoraproject.Anaconda.Modules.Network",
  "org.fedoraproject.Anaconda.Modules.Payloads",
  "org.fedoraproject.Anaconda.Modules.Storage"]

def moduleOptions : Fields :=
  options [("kickstart-modules", .texts installerModules)]

def templateOptions (settings : Settings) (arch : Document) : Fields :=
  options [("path", .text (settings.text .loraxTemplate)), ("basearch", arch)]

def bootModules : List Text := List.map Text.ofString [
  "bash", "systemd", "fips", "systemd-initrd", "modsign", "nss-softokn", "rdma", "rngd",
  "i18n", "convertfs", "network-manager", "network", "ifcfg", "url-lib", "drm", "plymouth",
  "prefixdevname", "prefixdevname-tools", "crypt", "dm", "dmsquash-live", "kernel-modules",
  "kernel-modules-extra", "kernel-network-modules", "livenet", "lvm", "mdraid", "multipath",
  "qemu", "qemu-net", "fcoe", "fcoe-uefi", "iscsi", "lunmask", "nfs", "resume",
  "rootfs-block", "terminfo", "udev-rules", "dracut-systemd", "pollcdrom", "usrmount",
  "base", "fs-lib", "img-lib", "shutdown", "uefi-lib"]

def architectureModules : Option Medium.Architecture → List Text
  | some .x86_64 => ["biosdevname"]
  | _ => []

/-- Modules of the initial file system: those of all architectures, those of this
one, and those that the caller adds. -/
def initialModules (arch additional : Document) : Except Mishap (List Document) := do
  let key ← arch.asKey
  let added ← if additional.given then additional.items else .ok []
  return (bootModules ++ architectureModules (Medium.Architecture.ofKey? key)).map .text ++ added

def initialNote (count : Nat) (arch : Document) : Note :=
  Logger.installer.note .debug (s!"dracut: {decimal count} modules for " ++ arch.inText)

def buildstampPath : String := "/.buildstamp"

def initialOptions (kernelVersion arch additional : Document) : Outcome Fields := do
  let modules ← initialModules arch additional
  Outcome.note (initialNote modules.length arch)
  return options [
    ("kernel", .list [kernelVersion]),
    ("modules", .list modules),
    ("install", .texts [buildstampPath])]

def buildstampOptions (arch product version variant : Document) : Fields :=
  options [
    ("arch", arch),
    ("product", product),
    ("version", version),
    ("variant", variant),
    ("final", .bool true)]

end ImageStages.Installer
