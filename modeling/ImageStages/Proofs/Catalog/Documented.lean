import ImageStages.Catalog.Parameters
import ImageStages.Proofs.Catalog.Parameters
import ImageStages.Proofs.Document.Uses

namespace ImageStages

namespace Document

variable {value : Document}

def IsTextOrNull (value : Document) : Prop :=
  value = .null ∨ value.IsText

/-- The value is an integer, or a truth value in the place of one. -/
def IsInteger (value : Document) : Prop :=
  ∃ scalar : Scalar, value = .scalar scalar ∧ scalar.int?.isSome

def IsIntegerOrNull (value : Document) : Prop :=
  value = .null ∨ value.IsInteger

end Document

structure Filesystem.WellTyped (filesystem : Filesystem) : Prop where
  type : filesystem.type.IsText
  uuid : filesystem.uuid.IsText
  mountpoint : filesystem.mountpoint.IsText
  label : filesystem.label.IsTextOrNull

structure Partition.WellTyped (partition : Partition) : Prop where
  type : partition.type.IsText
  uuid : partition.uuid.IsText
  filesystem : ∀ filesystem, partition.filesystem = some filesystem → filesystem.WellTyped

structure PartitionTable.WellTyped (table : PartitionTable) : Prop where
  type : table.type.IsText
  uuid : table.uuid.IsText
  partitions : ∀ partition ∈ table.partitions, partition.WellTyped

structure User.WellTyped (user : User) : Prop where
  name : user.name.IsText
  description : user.description.IsTextOrNull
  password : user.password.IsTextOrNull
  key : user.key.IsTextOrNull
  home : user.home.IsTextOrNull
  shell : user.shell.IsTextOrNull
  groups : ∀ groups, user.groups = some groups → ∀ group ∈ groups, group.IsText
  uid : user.uid.IsIntegerOrNull
  gid : user.gid.IsIntegerOrNull

structure Group.WellTyped (group : Group) : Prop where
  name : group.name.IsText
  gid : group.gid.IsIntegerOrNull

structure Services.WellTyped (services : Services) : Prop where
  enabled : ∀ service ∈ services.enabled, service.IsText
  disabled : ∀ service ∈ services.disabled, service.IsText

structure Firewall.WellTyped (firewall : Firewall) : Prop where
  ports : ∀ port ∈ firewall.ports, port.IsText
  services : ∀ services, firewall.services = some services → services.WellTyped

structure Kernel.WellTyped (kernel : Kernel) : Prop where
  name : kernel.name.IsText
  append : kernel.append.IsText

structure Customizations.WellTyped (customizations : Customizations) : Prop where
  users : ∀ user ∈ customizations.users, user.WellTyped
  groups : ∀ group ∈ customizations.groups, group.WellTyped
  firewall : ∀ firewall, customizations.firewall = some firewall → firewall.WellTyped
  services : ∀ services, customizations.services = some services → services.WellTyped
  kernel : ∀ kernel, customizations.kernel = some kernel → kernel.WellTyped

structure Repository.WellTyped (repository : Repository) : Prop where
  name : repository.name.IsText
  baseurl : repository.baseurl.IsText
  gpgkey : repository.gpgkey.IsText

structure Context.WellTyped (context : Context) : Prop where
  arch : ∃ name, context.arch = .text name ∧ name ≠ ""
  table : ∀ table, context.table = some table → table.WellTyped
  customizations : context.customizations.WellTyped
  repositories : ∀ repository ∈ context.repositories, repository.WellTyped

theorem Context.WellTyped.archIsScalar {context : Context} (typed : context.WellTyped) :
    context.arch.IsScalar := by
  obtain ⟨name, named, _⟩ := typed.arch
  exact ⟨.text name, named⟩

theorem PartitionTable.WellTyped.filesystem {table : PartitionTable} {partition : Partition}
    {filesystem : Filesystem} (typed : table.WellTyped) (member : partition ∈ table.partitions)
    (held : partition.filesystem = some filesystem) : filesystem.WellTyped :=
  (typed.partitions partition member).filesystem filesystem held

namespace Parameters

/-- The parameters that the stage cannot do without, all of them texts.  Some depend on
which others are there: a copy needs a file where it is given no device, and a kickstart
a reference where it deploys a commit. -/
def required (parameters : Parameters) : List String :=
  match parameters.stage with
  | .installerMedium => ["kernel_version", "vendor", "product", "version", "isolabel"]
  | .liveMedium =>
      ["install_device", "kernel_version", "vendor", "product", "version", "isolabel"]
  | .buildstamp => ["product", "version"]
  | .fileMode => ["path", "mode"]
  | .copy =>
      if (parameters.given? "device").isSome then ["pipeline"] else ["filename", "pipeline"]
  | .initialModules => ["kernel_version"]
  | .grubCore => ["filename", "platform"]
  | .kickstart =>
      match (parameters.find? "ostree_url").isSome, (parameters.find? "tar_url").isSome with
      | true, false => ["ostree_url", "ostree_ref"]
      | false, true => ["tar_url"]
      | _, _ => []
  | .webServer => ["path", "html_root", "listen"]
  | .tree => ["repo"]
  | .diskFormat => ["filename", "format"]
  | .mediumAssembly => ["filename", "isolabel"]
  | .zipl => ["kernel"]
  | _ => []

def HasRequired (parameters : Parameters) : Prop :=
  ∀ key ∈ parameters.required, parameters.HasText key

end Parameters

namespace StageType

def optional : StageType → List (String × Shape)
  | .buildstamp => [("variant", .text)]
  | .fileMode => [("recursive", .flag)]
  | .copy => [("device", .device), ("input_name", .text)]
  | .discinfo => [("release", .text)]
  | .initialModules => [("additional_modules", .texts)]
  | .grub => [
      ("kernel_options", .text), ("kernel_version", .text), ("uefi", .flag),
      ("legacy", .text), ("vendor", .text), ("install", .flag)]
  | .kernelCommandLine => [("root_fs_uuid", .text), ("kernel_options", .text)]
  | .tree => [("read_only", .flag)]
  | .diskFormat => [("compat", .text)]
  | .relabel => [("label_cp", .flag)]
  | .services => [
      ("enabled_services", .texts), ("disabled_services", .texts), ("default_target", .text)]
  | .mediumAssembly => [("isolinux", .flag)]
  | _ => []

end StageType

def Parameters.NeedTable (parameters : Parameters) : Prop :=
  parameters.stage ∈ [.copy, .grub, .grubCore, .zipl, .partitionTable] ∨
    (parameters.stage = .kernelCommandLine ∧ parameters.given? "root_fs_uuid" = none)

/-- The request is as documented: all that the stage requires is there, and what is there
has its type. -/
structure Documented (context : Context) (parameters : Parameters) : Prop where
  required : parameters.HasRequired
  optional : ∀ entry ∈ parameters.stage.optional, ∀ value,
    parameters.given? entry.1 = some value → entry.2.Admits value
  table : parameters.NeedTable → ∃ table, context.table = some table
  firewall : parameters.stage = .firewall →
    ∃ firewall, context.customizations.firewall = some firewall

namespace Documented

variable {context : Context} {parameters : Parameters}

theorem text? (documented : Documented context parameters) (key : String)
    (member : (key, .text) ∈ parameters.stage.optional) :
    ∃ text, parameters.text? key = .ok text :=
  Parameters.text?_succeeds_iff.mpr (documented.optional _ member)

theorem textOr (documented : Documented context parameters) (key default : String)
    (member : (key, .text) ∈ parameters.stage.optional) :
    ∃ text, parameters.textOr key default = .ok text :=
  Parameters.textOr_succeeds_iff.mpr (documented.optional _ member)

theorem flagOr (documented : Documented context parameters) (key : String) (default : Bool)
    (member : (key, .flag) ∈ parameters.stage.optional) :
    ∃ flag, parameters.flagOr key default = .ok flag :=
  (Parameters.flagOr_succeeds_iff _).mpr (documented.optional _ member)

theorem texts (documented : Documented context parameters) (key : String)
    (member : (key, .texts) ∈ parameters.stage.optional) :
    ∃ items, parameters.texts key = .ok items := by
  refine Parameters.texts_succeeds_iff.mpr fun value found given => ?_
  refine documented.optional _ member value ?_
  cases isNull : value.isNull with
  | false => simp [Parameters.given?, found, isNull, Option.filter]
  | true =>
      rw [Document.isNull_iff.mp isNull] at given
      contradiction

end Documented

end ImageStages
