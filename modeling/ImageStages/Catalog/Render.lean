import ImageStages.Account.Provision
import ImageStages.Boot.Loader
import ImageStages.Catalog.Parameters
import ImageStages.Deployment.Container
import ImageStages.Deployment.System
import ImageStages.Installer.Runtime
import ImageStages.Layout.Mount
import ImageStages.Medium.Tree

namespace ImageStages.StageType

def stage (type : StageType) (options : Fields) : Stage :=
  { type := type.name, options }

def tableFor (type : StageType) (context : Context) : Except Failure PartitionTable :=
  match context.table with
  | some table => .ok table
  | none =>
      .error (.badRequest s!"{type.name} stage requires a partition table"
        (some "partition_table"))

def renderFirewall (context : Context) : Except Failure Fields :=
  match context.customizations.firewall with
  | some custom => .ok (Deployment.firewallOptions custom)
  | none =>
      .error (.badRequest s!"{StageType.firewall.name} stage requires a firewall customization"
        (some "customizations.firewall"))

def renderServices (context : Context) (parameters : Parameters) : Except Failure Fields := do
  let enabled ← parameters.texts "enabled_services"
  let disabled ← parameters.texts "disabled_services"
  let target ← parameters.text? "default_target"
  Deployment.serviceOptions (.texts enabled) (.texts disabled) context.customizations.services
    (writeSection .text target)

def renderBuildstamp (context : Context) (parameters : Parameters) :
    Except Failure Fields := do
  let product ← parameters.text "product"
  let version ← parameters.text "version"
  let variant ← parameters.textOr "variant" ""
  return Installer.buildstampOptions context.arch (.text product) (.text version) (.text variant)

def renderInitialModules (context : Context) (parameters : Parameters) : Outcome Fields := do
  let kernelVersion ← parameters.text "kernel_version"
  let additional ← parameters.texts "additional_modules"
  Installer.initialOptions (.text kernelVersion) context.arch (.texts additional)

/-- A kickstart installs either a commit or a tarball. -/
def renderKickstart (surroundings : Surroundings) (parameters : Parameters) :
    Except Failure Fields := do
  let hasCommit := (parameters.find? "ostree_url").isSome
  let hasTar := (parameters.find? "tar_url").isSome
  if hasCommit == hasTar then
    .error (.badRequest
      (s!"{StageType.kickstart.name} stage requires exactly one of " ++
        "'ostree_url' or 'tar_url'" : String) none)
  else if hasCommit then do
    let url ← parameters.text "ostree_url"
    let ref ← parameters.text "ostree_ref"
    return Installer.commitKickstart surroundings.settings (.text url) (.text ref)
  else do
    let url ← parameters.text "tar_url"
    return Installer.tarKickstart (.text url)

def readBranding (parameters : Parameters) : Except Failure Medium.Branding := do
  let vendor ← parameters.text "vendor"
  let product ← parameters.text "product"
  let version ← parameters.text "version"
  let label ← parameters.text "isolabel"
  return ⟨.text vendor, .text product, .text version, .text label⟩

def renderInstallerMedium (surroundings : Surroundings) (context : Context)
    (parameters : Parameters) : Outcome Fields := do
  let kernelVersion ← parameters.text "kernel_version"
  let branding ← readBranding parameters
  Medium.installerOptions surroundings.settings (.text kernelVersion) context.arch branding

def renderLiveMedium (surroundings : Surroundings) (context : Context)
    (parameters : Parameters) : Except Failure Fields := do
  let installDevice ← parameters.text "install_device"
  let _ ← parameters.text "kernel_version"
  let branding ← readBranding parameters
  Medium.liveOptions surroundings.settings (.text installDevice) context.arch branding

def renderDiscinfo (surroundings : Surroundings) (context : Context)
    (parameters : Parameters) : Except Failure Fields := do
  let release ← parameters.text? "release"
  return Medium.discinfoOptions surroundings.settings context.arch (writeSection .text release)

def renderAssembly (context : Context) (parameters : Parameters) : Except Failure Fields := do
  let filename ← parameters.text "filename"
  let label ← parameters.text "isolabel"
  let customary ← Medium.hasLegacyLoader context.arch
  let legacy ← parameters.flagOr "isolinux" customary
  Medium.assemblyOptions (.text filename) (.text label) context.arch (.bool legacy)

/-- The device of the whole image: as given, or a loopback device for a file. -/
def imageDevice (parameters : Parameters) : Except Failure Document := do
  match ← parameters.record? "device" with
  | some device => return .object device
  | none =>
      let filename ← parameters.text "filename"
      return Layout.loopback (.text filename) (.int 0) (.int 0)

def renderCopy (context : Context) (parameters : Parameters) : Outcome Stage := do
  let table ← StageType.copy.tableFor context
  let device ← imageDevice parameters
  let inputName ← parameters.textOr "input_name" "root-tree"
  let pipeline ← parameters.text "pipeline"
  Layout.copyStage (.text inputName) (.text pipeline) table device

def renderGrub (context : Context) (parameters : Parameters) : Except Failure Fields := do
  let table ← StageType.grub.tableFor context
  let kernelOptions ← parameters.textOr "kernel_options" ""
  let kernelVersion ← parameters.textOr "kernel_version" ""
  let uefi ← parameters.flagOr "uefi" false
  let legacy ← parameters.textOr "legacy" ""
  let vendor ← parameters.textOr "vendor" ""
  let install ← parameters.flagOr "install" false
  Boot.grubOptions table.root? table.boot? {
    kernelOptions := .text kernelOptions
    kernel := context.customizations.kernel
    kernelVersion := .text kernelVersion
    uefi := .bool uefi
    legacy := .text legacy
    vendor := .text vendor
    install := .bool install }

def renderGrubCore (context : Context) (parameters : Parameters) : Outcome Fields := do
  let filename ← parameters.text "filename"
  let table ← StageType.grubCore.tableFor context
  let platform ← parameters.text "platform"
  Boot.grubCoreOptions (.text filename) table (.text platform)

def renderZipl (context : Context) (parameters : Parameters) : Except Failure Fields := do
  let kernel ← parameters.text "kernel"
  let table ← StageType.zipl.tableFor context
  Boot.ziplOptions (.text kernel) table

/-- The identifier of the root filesystem: as given, or that of the partition table. -/
def rootIdentifier (context : Context) (parameters : Parameters) :
    Except Failure Document := do
  match ← parameters.text? "root_fs_uuid" with
  | some id => return .text id
  | none =>
      let table ← StageType.kernelCommandLine.tableFor context
      match Boot.filesystemOf table.root? with
      | some filesystem => return filesystem.uuid
      | none =>
          .error (.invariant (.missingPartition (.text StageType.kernelCommandLine.name)
            rootMountpoint))

def renderCommandLine (context : Context) (parameters : Parameters) :
    Except Failure Fields := do
  let rootId ← rootIdentifier context parameters
  let kernelOptions ← parameters.textOr "kernel_options" ""
  return Boot.commandLineOptions rootId (.text kernelOptions)

def renderDiskFormat (parameters : Parameters) : Except Failure Fields := do
  let filename ← parameters.text "filename"
  let format ← parameters.text "format"
  let compat ← parameters.textOr "compat" ""
  Medium.conversionOptions (.text filename) (.text format) (.text compat)

def renderWebServer (parameters : Parameters) : Except Failure Fields := do
  let path ← parameters.text "path"
  let root ← parameters.text "html_root"
  let listen ← parameters.text "listen"
  return Deployment.webServerOptions (.text path) (.text root) (.text listen)

def renderFileMode (parameters : Parameters) : Except Failure Fields := do
  let path ← parameters.text "path"
  let mode ← parameters.text "mode"
  let recursive ← parameters.flagOr "recursive" false
  Deployment.modeOptions (.text path) (.text mode) (.bool recursive)

def renderTree (parameters : Parameters) : Except Failure Fields := do
  let repository ← parameters.text "repo"
  let readOnly ← parameters.flagOr "read_only" true
  return Deployment.treeOptions (.text repository) (.bool readOnly)

def renderFirstBoot (surroundings : Surroundings) (context : Context) : Outcome Fields := do
  let records ← Account.userRecords surroundings.salt context.customizations.users
  Account.firstBootOptions records

def renderUsers (surroundings : Surroundings) (context : Context) : Outcome Fields := do
  let records ← Account.userRecords surroundings.salt context.customizations.users
  return Account.usersOptions records

def renderRelabel (parameters : Parameters) : Except Failure Fields := do
  let labelCopying ← parameters.flagOr "label_cp" false
  return Deployment.relabelOptions (.bool labelCopying)

def renderTable (context : Context) : Except Failure Fields := do
  let table ← StageType.partitionTable.tableFor context
  return Layout.describeTable table

/-- The options of a stage that is nothing but its options. -/
def renderOptions (type : StageType) (surroundings : Surroundings) (context : Context)
    (parameters : Parameters) : Outcome Fields :=
  match type with
  | .installerModules => pure Installer.moduleOptions
  | .installerMedium => renderInstallerMedium surroundings context parameters
  | .buildstamp => renderBuildstamp context parameters
  | .fileMode => renderFileMode parameters
  | .copy => do return (← renderCopy context parameters).options
  | .discinfo => renderDiscinfo surroundings context parameters
  | .initialModules => renderInitialModules context parameters
  | .firewall => renderFirewall context
  | .firstBoot => renderFirstBoot surroundings context
  | .groups => Account.groupsOptions context.customizations.groups
  | .grub => renderGrub context parameters
  | .grubCore => renderGrubCore context parameters
  | .liveMedium => renderLiveMedium surroundings context parameters
  | .kernelCommandLine => renderCommandLine context parameters
  | .kickstart => renderKickstart surroundings parameters
  | .installerTemplate =>
      pure (Installer.templateOptions surroundings.settings context.arch)
  | .efiDirectory => pure Deployment.efiDirectoryOptions
  | .webServer => renderWebServer parameters
  | .tree => renderTree parameters
  | .diskFormat => renderDiskFormat parameters
  | .packages => pure (Deployment.packageOptions context.repositories)
  | .relabel => renderRelabel parameters
  | .partitionTable => renderTable context
  | .services => renderServices context parameters
  | .users => renderUsers surroundings context
  | .mediumAssembly => renderAssembly context parameters
  | .zipl => renderZipl context parameters

/-- Renders a stage.  A copy has inputs, devices and mounts beside its options. -/
def render (type : StageType) (surroundings : Surroundings) (context : Context)
    (parameters : Fields) : Outcome Stage :=
  match type with
  | .copy => renderCopy context ⟨type, parameters⟩
  | type => do
      let options ← type.renderOptions surroundings context ⟨type, parameters⟩
      return type.stage options

end ImageStages.StageType
