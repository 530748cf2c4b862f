import ImageStages.Text.CodePoint

namespace ImageStages

/-- The types of stages that can be rendered, in the order of their names. -/
inductive StageType where
  | installerModules
  | installerMedium
  | buildstamp
  | fileMode
  | copy
  | discinfo
  | initialModules
  | firewall
  | firstBoot
  | groups
  | grub
  | grubCore
  | liveMedium
  | kernelCommandLine
  | kickstart
  | installerTemplate
  | efiDirectory
  | webServer
  | tree
  | diskFormat
  | packages
  | relabel
  | partitionTable
  | services
  | users
  | mediumAssembly
  | zipl
deriving DecidableEq

namespace StageType

def name : StageType → String
  | .installerModules => "org.osbuild.anaconda"
  | .installerMedium => "org.osbuild.bootiso.mono"
  | .buildstamp => "org.osbuild.buildstamp"
  | .fileMode => "org.osbuild.chmod"
  | .copy => "org.osbuild.copy"
  | .discinfo => "org.osbuild.discinfo"
  | .initialModules => "org.osbuild.dracut"
  | .firewall => "org.osbuild.firewall"
  | .firstBoot => "org.osbuild.first-boot"
  | .groups => "org.osbuild.groups"
  | .grub => "org.osbuild.grub2"
  | .grubCore => "org.osbuild.grub2.inst"
  | .liveMedium => "org.osbuild.grub2.iso"
  | .kernelCommandLine => "org.osbuild.kernel-cmdline"
  | .kickstart => "org.osbuild.kickstart"
  | .installerTemplate => "org.osbuild.lorax-script"
  | .efiDirectory => "org.osbuild.mkdir"
  | .webServer => "org.osbuild.nginx.conf"
  | .tree => "org.osbuild.ostree.config"
  | .diskFormat => "org.osbuild.qemu"
  | .packages => "org.osbuild.rpm"
  | .relabel => "org.osbuild.selinux"
  | .partitionTable => "org.osbuild.sfdisk"
  | .services => "org.osbuild.systemd"
  | .users => "org.osbuild.users"
  | .mediumAssembly => "org.osbuild.xorrisofs"
  | .zipl => "org.osbuild.zipl.inst"

def all : List StageType := [
  .installerModules, .installerMedium, .buildstamp, .fileMode, .copy, .discinfo,
  .initialModules, .firewall, .firstBoot, .groups, .grub, .grubCore, .liveMedium,
  .kernelCommandLine, .kickstart, .installerTemplate, .efiDirectory, .webServer, .tree,
  .diskFormat, .packages, .relabel, .partitionTable, .services, .users, .mediumAssembly,
  .zipl]

def ofName? (name : Text) : Option StageType :=
  all.find? (Text.ofString ·.name == name)

theorem ofString_name_ne_nil (type : StageType) : Text.ofString type.name ≠ [] := by
  have filled : type.name ≠ "" := by cases type <;> decide
  exact fun none => filled (Text.ofString_inj.mp none)

theorem mem_all (type : StageType) : type ∈ all := by
  cases type <;> decide

theorem name_of_ofName? {name : Text} {type : StageType} (named : ofName? name = some type) :
    type.name = name := by
  simpa using List.find?_some named

theorem eq_of_name_eq {left right : StageType} (same : left.name = right.name) :
    left = right := by
  have distinct : ∀ left ∈ all, ∀ right ∈ all, left.name = right.name → left = right := by
    decide +kernel
  exact distinct left (mem_all left) right (mem_all right) same

theorem ofName?_name (type : StageType) : ofName? type.name = some type := by
  have listed : (ofName? type.name).isSome := by
    rw [ofName?, List.find?_isSome]
    exact ⟨type, mem_all type, beq_self_eq_true _⟩
  obtain ⟨found, named⟩ := Option.isSome_iff_exists.mp listed
  rw [named, eq_of_name_eq (Text.ofString_inj.mp (name_of_ofName? named))]

theorem ofName?_eq_some_iff {name : Text} {type : StageType} :
    ofName? name = some type ↔ type.name = name := by
  constructor
  · exact name_of_ofName?
  · rintro rfl
    exact type.ofName?_name

end StageType

end ImageStages
