import ImageStages.Proofs.Account.Provision
import ImageStages.Proofs.Boot.Loader
import ImageStages.Proofs.Catalog.Batch
import ImageStages.Proofs.Catalog.Documented
import ImageStages.Proofs.Layout.Plan
import ImageStages.Proofs.Medium.Supported

namespace ImageStages.Catalog

/-! Which documented requests are refused, and how.

A request that is as documented, for a context whose fields are well typed, either renders
or is refused for what the context or a parameter says.  Each cause has a failure of its
own, and where there are several, the first in a fixed order counts. -/

variable {surroundings : Surroundings} {context : Context} {parameters : Parameters}
  {failure : Failure}

/-- A copy works on a loopback device: the one that it is given, or one for the image file. -/
def CopiesThroughLoopback (parameters : Parameters) : Prop :=
  ∀ device, parameters.given? "device" = some (.object device) → Layout.IsLoopback device

def IdentifiesRoot (table : PartitionTable) : Prop :=
  ∃ filesystem id number, table.FirstMounted "/" filesystem ∧ filesystem.uuid = .text id ∧
    Identifier.valueOf id = .ok number

/-- The identifier is a text that spells none, and the caller is told why. -/
def Malformed (uuid : Document) (failure : Failure) : Prop :=
  ∃ id reason, uuid = .text id ∧ Identifier.valueOf id = .error reason ∧
    failure = .invalid (.identifier (.text id) (.text reason))

def unclearSource : String :=
  "org.osbuild.kickstart stage requires exactly one of 'ostree_url' or 'tar_url'"

inductive Refused (context : Context) (parameters : Parameters) : Failure → Prop where
  | source (stage : parameters.stage = .kickstart)
      (unclear : (parameters.find? "ostree_url").isSome = (parameters.find? "tar_url").isSome) :
      Refused context parameters (.badRequest unclearSource none)
  | rootPartition {table : PartitionTable}
      (stage : parameters.stage = .grub ∨
        (parameters.stage = .kernelCommandLine ∧ parameters.given? "root_fs_uuid" = none))
      (planned : context.table = some table) (unmounted : ¬ table.Mounted "/") :
      Refused context parameters (.invariant
        (.missingPartition (.text parameters.stage.name) (.text "/")))
  | bootPartition {table : PartitionTable}
      (stage : parameters.stage = .grubCore ∨ parameters.stage = .zipl)
      (planned : context.table = some table) (unmounted : ¬ table.Mounted "/boot")
      (unmountedRoot : ¬ table.Mounted "/") :
      Refused context parameters (.invariant
        (.missingPartition (.text parameters.stage.name) (.text "/boot")))
  | device {device : Fields} (stage : parameters.stage = .copy)
      (given : parameters.given? "device" = some (.object device))
      (foreign : ¬ Layout.IsLoopback device) :
      Refused context parameters (.invariant
        (.device ((Fields.find? device (.text "type")).getD (.text ""))))
  | filesystem {table : PartitionTable} {before after : List (Partition × Filesystem)}
      {partition : Partition} {filesystem : Filesystem}
      (stage : parameters.stage = .copy) (loops : CopiesThroughLoopback parameters)
      (planned : context.table = some table)
      (split : Layout.mountable table.partitions = before ++ (partition, filesystem) :: after)
      (known : ∀ earlier ∈ before, Layout.CanMount earlier.2)
      (unknown : ¬ Layout.CanMount filesystem) :
      Refused context parameters (.invariant
        (.filesystem filesystem.type filesystem.mountpoint))
  | architecture
      (stage : parameters.stage = .installerMedium ∨ parameters.stage = .liveMedium)
      (other : ¬ Medium.HasEfi context.arch) :
      Refused context parameters (.invariant
        (.architecture context.arch (.text parameters.stage.name)))
  | format {format : Text} (stage : parameters.stage = .diskFormat)
      (given : parameters.find? "format" = some (.text format))
      (unknown : format ∉ Medium.diskFormats) :
      Refused context parameters (.invariant (.imageFormat (.text format)))
  | rootIdentifier {table : PartitionTable} {root : Filesystem} {id reason : Text}
      (stage : parameters.stage = .grub) (planned : context.table = some table)
      (first : table.FirstMounted "/" root) (spelled : root.uuid = .text id)
      (malformed : Identifier.valueOf id = .error reason) :
      Refused context parameters (.invalid (.identifier (.text id) (.text reason)))
  | bootIdentifier {table : PartitionTable} {boot : Filesystem} {id reason : Text}
      (stage : parameters.stage = .grub) (planned : context.table = some table)
      (identified : IdentifiesRoot table)
      (first : table.FirstMounted "/boot" boot) (spelled : boot.uuid = .text id)
      (malformed : Identifier.valueOf id = .error reason) :
      Refused context parameters (.invalid (.identifier (.text id) (.text reason)))
  | password {before after : List User} {user : User} {reason : Text}
      (stage : parameters.stage = .users ∨ parameters.stage = .firstBoot)
      (split : context.customizations.users = before ++ user :: after)
      (storable : ∀ earlier ∈ before, Account.Storable earlier.password)
      (unhashable : Account.Unhashable user.password reason) :
      Refused context parameters (.invalid (.password user.name (.text reason)))
  | label {label : Text} {fault : Template.Fault} (stage : parameters.stage = .mediumAssembly)
      (given : parameters.find? "isolabel" = some (.text label))
      (failed : Template.fill label context.arch = .error fault) :
      Refused context parameters (Medium.labelRefusal label fault)

section Refused

/-- The stages that can be refused though they are requested as documented. -/
def refusable : List StageType := [
  .kickstart, .grub, .kernelCommandLine, .grubCore, .zipl, .copy, .installerMedium, .liveMedium,
  .diskFormat, .users, .firstBoot, .mediumAssembly]

theorem Refused.mem_refusable (refused : Refused context parameters failure) :
    parameters.stage ∈ refusable := by
  cases refused with
  | source stage | device stage | filesystem stage | format stage | rootIdentifier stage
  | bootIdentifier stage | label stage => simp [stage, refusable]
  | rootPartition stage => rcases stage with stage | ⟨stage, _⟩ <;> simp [stage, refusable]
  | bootPartition stage | architecture stage | password stage =>
      rcases stage with stage | stage <;> simp [stage, refusable]

theorem Refused.not_isStray (refused : Refused context parameters failure) :
    ¬ failure.IsStray := by
  cases refused <;> simp [Medium.labelRefusal]

theorem refused_source_iff (stage : parameters.stage = .kickstart) :
    Refused context parameters failure ↔
      (parameters.find? "ostree_url").isSome = (parameters.find? "tar_url").isSome ∧
        failure = .badRequest unclearSource none := by
  constructor
  · intro refused
    cases refused with
    | source _ unclear => exact ⟨unclear, rfl⟩
    | _ => simp_all
  · intro failed
    obtain ⟨unclear, rfl⟩ := failed
    exact .source stage unclear

theorem refused_medium_iff
    (stage : parameters.stage = .installerMedium ∨ parameters.stage = .liveMedium) :
    Refused context parameters failure ↔
      ¬ Medium.HasEfi context.arch ∧ failure = .invariant
        (.architecture context.arch (.text parameters.stage.name)) := by
  constructor
  · intro refused
    cases refused with
    | architecture _ other => exact ⟨other, rfl⟩
    | _ => rcases stage with stage | stage <;> simp_all
  · intro failed
    obtain ⟨other, rfl⟩ := failed
    exact .architecture stage other

theorem refused_bootPartition_iff {table : PartitionTable} (planned : context.table = some table)
    (stage : parameters.stage = .grubCore ∨ parameters.stage = .zipl) :
    Refused context parameters failure ↔
      (¬ table.Mounted "/boot" ∧ ¬ table.Mounted "/") ∧ failure = .invariant
        (.missingPartition (.text parameters.stage.name) (.text "/boot")) := by
  constructor
  · intro refused
    cases refused with
    | @bootPartition other _ found noBoot noRoot =>
        obtain rfl : table = other := Option.some.inj (planned.symm.trans found)
        exact ⟨⟨noBoot, noRoot⟩, rfl⟩
    | _ => rcases stage with stage | stage <;> simp_all
  · intro failed
    obtain ⟨⟨noBoot, noRoot⟩, rfl⟩ := failed
    exact .bootPartition stage planned noBoot noRoot

theorem refused_rootIdentifier_iff {table : PartitionTable} (planned : context.table = some table)
    (stage : parameters.stage = .kernelCommandLine)
    (absent : parameters.given? "root_fs_uuid" = none) :
    Refused context parameters failure ↔
      ¬ table.Mounted "/" ∧ failure = .invariant
        (.missingPartition (.text parameters.stage.name) (.text "/")) := by
  constructor
  · intro refused
    cases refused with
    | @rootPartition other _ found unmounted =>
        obtain rfl : table = other := Option.some.inj (planned.symm.trans found)
        exact ⟨unmounted, rfl⟩
    | _ => simp_all
  · intro failed
    obtain ⟨unmounted, rfl⟩ := failed
    exact .rootPartition (.inr ⟨stage, absent⟩) planned unmounted

theorem refused_grub_iff {table : PartitionTable} (planned : context.table = some table)
    (stage : parameters.stage = .grub) :
    Refused context parameters failure ↔
      (¬ table.Mounted "/" ∧ failure = .invariant
        (.missingPartition (.text parameters.stage.name) (.text "/"))) ∨
      (∃ root, table.FirstMounted "/" root ∧ Malformed root.uuid failure) ∨
      (IdentifiesRoot table ∧
        ∃ boot, table.FirstMounted "/boot" boot ∧ Malformed boot.uuid failure) := by
  constructor
  · intro refused
    cases refused with
    | @rootPartition other _ found unmounted =>
        obtain rfl : table = other := Option.some.inj (planned.symm.trans found)
        exact .inl ⟨unmounted, rfl⟩
    | @rootIdentifier other root id reason _ found first spelled malformed =>
        obtain rfl : table = other := Option.some.inj (planned.symm.trans found)
        exact .inr (.inl ⟨root, first, id, reason, spelled, malformed, rfl⟩)
    | @bootIdentifier other boot id reason _ found identified first spelled malformed =>
        obtain rfl : table = other := Option.some.inj (planned.symm.trans found)
        exact .inr (.inr ⟨identified, boot, first, id, reason, spelled, malformed, rfl⟩)
    | _ => simp_all
  · intro failed
    rcases failed with ⟨unmounted, rfl⟩ | ⟨root, first, id, reason, spelled, malformed, rfl⟩ |
      ⟨identified, boot, first, id, reason, spelled, malformed, rfl⟩
    · exact .rootPartition (.inl stage) planned unmounted
    · exact .rootIdentifier stage planned first spelled malformed
    · exact .bootIdentifier stage planned identified first spelled malformed

theorem copiesThroughLoopback_iff {device : Fields}
    (origin : parameters.given? "device" = some (.object device) ∨
      (parameters.given? "device" = none ∧ Layout.IsLoopback device)) :
    CopiesThroughLoopback parameters ↔ Layout.IsLoopback device := by
  rcases origin with given | ⟨absent, isLoopback⟩
  · simp [CopiesThroughLoopback, given]
  · simp [CopiesThroughLoopback, absent, isLoopback]

theorem refused_copy_iff {table : PartitionTable} {device : Fields}
    (planned : context.table = some table) (stage : parameters.stage = .copy)
    (origin : parameters.given? "device" = some (.object device) ∨
      (parameters.given? "device" = none ∧ Layout.IsLoopback device)) :
    Refused context parameters failure ↔
      (¬ Layout.IsLoopback device ∧ failure = .invariant
        (.device ((Fields.find? device (.text "type")).getD (.text "")))) ∨
      (Layout.IsLoopback device ∧ ∃ before partition filesystem after,
        Layout.mountable table.partitions = before ++ (partition, filesystem) :: after ∧
        (∀ earlier ∈ before, Layout.CanMount earlier.2) ∧ ¬ Layout.CanMount filesystem ∧
        failure = .invariant (.filesystem filesystem.type filesystem.mountpoint)) := by
  have loops := copiesThroughLoopback_iff origin
  constructor
  · intro refused
    cases refused with
    | @device other _ givenOther foreign =>
        rcases origin with given | ⟨absent, _⟩
        · obtain rfl : device = other := by simpa [given] using givenOther
          exact .inl ⟨foreign, rfl⟩
        · simp [absent] at givenOther
    | @filesystem other before after partition filesystem _ copies found split known unknown =>
        obtain rfl : table = other := Option.some.inj (planned.symm.trans found)
        exact .inr ⟨loops.mp copies, before, partition, filesystem, after, split, known,
          unknown, rfl⟩
    | _ => simp_all
  · intro failed
    rcases failed with ⟨foreign, rfl⟩ | ⟨isLoopback, before, partition, filesystem, after, split,
      known, unknown, rfl⟩
    · rcases origin with given | ⟨_, isLoopback⟩
      · exact .device stage given foreign
      · exact absurd isLoopback foreign
    · exact .filesystem stage (loops.mpr isLoopback) planned split known unknown

theorem refused_password_iff
    (stage : parameters.stage = .users ∨ parameters.stage = .firstBoot) :
    Refused context parameters failure ↔
      ∃ before user after reason, context.customizations.users = before ++ user :: after ∧
        (∀ earlier ∈ before, Account.Storable earlier.password) ∧
        Account.Unhashable user.password reason ∧
        failure = .invalid (.password user.name (.text reason)) := by
  constructor
  · intro refused
    cases refused with
    | @password before after user reason _ split storable unhashable =>
        exact ⟨before, user, after, reason, split, storable, unhashable, rfl⟩
    | _ => rcases stage with stage | stage <;> simp_all
  · intro failed
    obtain ⟨before, user, after, reason, split, storable, unhashable, rfl⟩ := failed
    exact .password stage split storable unhashable

end Refused

section Renderers

/-! One stage at a time: reading the parameters succeeds, and what is left is the error
condition of the options themselves. -/

variable {fields : Fields}

theorem installerMedium_error_iff (typed : context.WellTyped)
    (documented : Documented context ⟨.installerMedium, fields⟩) :
    (StageType.renderInstallerMedium surroundings context ⟨.installerMedium, fields⟩).result =
        .error failure ↔
      Refused context ⟨.installerMedium, fields⟩ failure := by
  have reads := documented.required
  simp only [Parameters.HasRequired, Parameters.required, List.forall_mem_cons] at reads
  obtain ⟨⟨_, kernelVersion⟩, ⟨_, vendor⟩, ⟨_, product⟩, ⟨_, version⟩, ⟨_, label⟩, _⟩ := reads
  simp only [StageType.renderInstallerMedium, StageType.readBranding, Outcome.result_bind,
    Outcome.result_lift, Parameters.text_of_find? kernelVersion, Parameters.text_of_find? vendor,
    Parameters.text_of_find? product, Parameters.text_of_find? version,
    Parameters.text_of_find? label, Except.ok_bind, Except.pure_eq_ok,
    Medium.installerOptions_error_iff typed.archIsScalar]
  exact Iff.symm (refused_medium_iff (.inl rfl))

theorem liveMedium_error_iff (typed : context.WellTyped)
    (documented : Documented context ⟨.liveMedium, fields⟩) :
    StageType.renderLiveMedium surroundings context ⟨.liveMedium, fields⟩ = .error failure ↔
      Refused context ⟨.liveMedium, fields⟩ failure := by
  have reads := documented.required
  simp only [Parameters.HasRequired, Parameters.required, List.forall_mem_cons] at reads
  obtain ⟨⟨_, installDevice⟩, ⟨_, kernelVersion⟩, ⟨_, vendor⟩, ⟨_, product⟩, ⟨_, version⟩,
    ⟨_, label⟩, _⟩ := reads
  simp only [StageType.renderLiveMedium, StageType.readBranding,
    Parameters.text_of_find? installDevice, Parameters.text_of_find? kernelVersion,
    Parameters.text_of_find? vendor, Parameters.text_of_find? product,
    Parameters.text_of_find? version, Parameters.text_of_find? label, Except.ok_bind,
    Except.pure_eq_ok, Medium.liveOptions_error_iff typed.archIsScalar]
  exact Iff.symm (refused_medium_iff (.inr rfl))

theorem diskFormat_error_iff (documented : Documented context ⟨.diskFormat, fields⟩) :
    StageType.renderDiskFormat ⟨.diskFormat, fields⟩ = .error failure ↔
      Refused context ⟨.diskFormat, fields⟩ failure := by
  have reads := documented.required
  simp only [Parameters.HasRequired, Parameters.required, List.forall_mem_cons] at reads
  obtain ⟨⟨_, filename⟩, ⟨format, given⟩, _⟩ := reads
  obtain ⟨compat, read⟩ := documented.textOr "compat" "" (by simp [StageType.optional])
  simp only [StageType.renderDiskFormat, Parameters.text_of_find? filename,
    Parameters.text_of_find? given, read, Except.ok_bind, Medium.conversionOptions_error_iff]
  constructor
  · intro failed
    obtain ⟨unknown, rfl⟩ := failed
    exact .format rfl given (by simpa [List.forall_mem_ne] using unknown)
  · intro refused
    cases refused with
    | @format other stage found unknown =>
        obtain rfl : format = other := by simpa [given] using found
        exact ⟨by simpa [List.forall_mem_ne] using unknown, rfl⟩
    | _ => simp_all

theorem kickstart_error_iff (documented : Documented context ⟨.kickstart, fields⟩) :
    StageType.renderKickstart surroundings ⟨.kickstart, fields⟩ = .error failure ↔
      Refused context ⟨.kickstart, fields⟩ failure := by
  have told : s!"{StageType.kickstart.name} stage requires exactly one of " ++
      "'ostree_url' or 'tar_url'" = unclearSource := rfl
  have reads := documented.required
  rw [refused_source_iff rfl]
  simp only [StageType.renderKickstart, told]
  cases commit : ((Parameters.mk .kickstart fields).find? "ostree_url").isSome <;>
    cases tar : ((Parameters.mk .kickstart fields).find? "tar_url").isSome
  · simp [eq_comm (a := failure)]
  · simp only [Parameters.HasRequired, Parameters.required, commit, tar,
      List.forall_mem_cons] at reads
    obtain ⟨⟨_, url⟩, _⟩ := reads
    simp [Parameters.text_of_find? url]
  · simp only [Parameters.HasRequired, Parameters.required, commit, tar,
      List.forall_mem_cons] at reads
    obtain ⟨⟨_, url⟩, ⟨_, ref⟩, _⟩ := reads
    simp [Parameters.text_of_find? url, Parameters.text_of_find? ref]
  · simp [eq_comm (a := failure)]

theorem mediumAssembly_error_iff (typed : context.WellTyped)
    (documented : Documented context ⟨.mediumAssembly, fields⟩) :
    StageType.renderAssembly context ⟨.mediumAssembly, fields⟩ = .error failure ↔
      Refused context ⟨.mediumAssembly, fields⟩ failure := by
  obtain ⟨arch, named, _⟩ := typed.arch
  have reads := documented.required
  simp only [Parameters.HasRequired, Parameters.required, List.forall_mem_cons] at reads
  obtain ⟨⟨_, filename⟩, ⟨label, given⟩, _⟩ := reads
  obtain ⟨customary, known⟩ := Medium.hasLegacyLoader_succeeds (Document.isText_text arch).isScalar
  obtain ⟨legacy, read⟩ := documented.flagOr "isolinux" customary (by simp [StageType.optional])
  simp only [StageType.renderAssembly, Parameters.text_of_find? filename,
    Parameters.text_of_find? given, known, read, Outcome.lift_mishap, Except.mapError_ok,
    Except.ok_bind, named, Medium.assemblyOptions_error_iff]
  constructor
  · intro cause
    obtain ⟨fault, failed, rfl⟩ := cause
    exact .label rfl given (by rw [named]; exact failed)
  · intro refused
    cases refused with
    | @label other fault stage found failed =>
        obtain rfl : label = other := by simpa [given] using found
        exact ⟨fault, by rw [← named]; exact failed, rfl⟩
    | _ => simp_all

theorem grubCore_error_iff (documented : Documented context ⟨.grubCore, fields⟩) :
    (StageType.renderGrubCore context ⟨.grubCore, fields⟩).result = .error failure ↔
      Refused context ⟨.grubCore, fields⟩ failure := by
  have reads := documented.required
  simp only [Parameters.HasRequired, Parameters.required, List.forall_mem_cons] at reads
  obtain ⟨⟨_, filename⟩, ⟨_, platform⟩, _⟩ := reads
  obtain ⟨table, planned⟩ := documented.table (.inl (by simp))
  simp only [StageType.renderGrubCore, Outcome.result_bind, Outcome.result_lift,
    Parameters.text_of_find? filename, Parameters.text_of_find? platform, StageType.tableFor,
    planned, Except.ok_bind, Boot.grubCoreOptions_error_iff]
  exact Iff.symm (refused_bootPartition_iff planned (.inl rfl))

theorem zipl_error_iff (documented : Documented context ⟨.zipl, fields⟩) :
    StageType.renderZipl context ⟨.zipl, fields⟩ = .error failure ↔
      Refused context ⟨.zipl, fields⟩ failure := by
  have reads := documented.required
  simp only [Parameters.HasRequired, Parameters.required, List.forall_mem_cons] at reads
  obtain ⟨⟨_, kernel⟩, _⟩ := reads
  obtain ⟨table, planned⟩ := documented.table (.inl (by simp))
  simp only [StageType.renderZipl, Parameters.text_of_find? kernel, StageType.tableFor, planned,
    Except.ok_bind, Boot.ziplOptions_error_iff]
  exact Iff.symm (refused_bootPartition_iff planned (.inr rfl))

theorem kernelCommandLine_error_iff
    (documented : Documented context ⟨.kernelCommandLine, fields⟩) :
    StageType.renderCommandLine context ⟨.kernelCommandLine, fields⟩ = .error failure ↔
      Refused context ⟨.kernelCommandLine, fields⟩ failure := by
  obtain ⟨kernelOptions, read⟩ :=
    documented.textOr "kernel_options" "" (by simp [StageType.optional])
  have reduced : StageType.renderCommandLine context ⟨.kernelCommandLine, fields⟩ =
        .error failure ↔
      StageType.rootIdentifier context ⟨.kernelCommandLine, fields⟩ = .error failure := by
    simp [StageType.renderCommandLine, read, Except.bind_eq_error_iff]
  rw [reduced]
  obtain ⟨rootId, readRoot⟩ := documented.text? "root_fs_uuid" (by simp [StageType.optional])
  cases rootId with
  | some id =>
      have given := Parameters.text?_eq_some_iff.mp readRoot
      simp only [StageType.rootIdentifier, readRoot, Except.ok_bind, Except.pure_eq_ok,
        reduceCtorEq, false_iff]
      intro refused
      cases refused <;> simp_all
  | none =>
      have absent := Parameters.text?_eq_none_iff.mp readRoot
      obtain ⟨table, planned⟩ := documented.table (.inr ⟨rfl, absent⟩)
      rw [refused_rootIdentifier_iff planned rfl absent,
        ← PartitionTable.filesystemOf_at?_eq_none_iff]
      cases held : Boot.filesystemOf (table.at? (.text "/")) <;>
        simp [StageType.rootIdentifier, readRoot, StageType.tableFor, planned,
          PartitionTable.root?, rootMountpoint, held, eq_comm (a := failure)]

theorem uuid_of_firstMounted {table : PartitionTable} {place : String} {filesystem : Filesystem}
    (typed : table.WellTyped) (first : table.FirstMounted place filesystem) :
    filesystem.uuid.IsText := by
  obtain ⟨before, partition, after, split, held, _⟩ := first
  exact (typed.filesystem (by simp [split]) held).uuid

theorem parse_malformed_iff {uuid : Document} (isText : uuid.IsText) :
    Identifier.parse uuid = .error failure ↔ Malformed uuid failure := by
  obtain ⟨id, rfl⟩ := isText
  rw [Identifier.parse_error_iff]
  simp [Malformed]

theorem identifiesRoot_iff {table : PartitionTable} {root : Filesystem}
    (typed : table.WellTyped) (first : table.FirstMounted "/" root) :
    (∃ id, Identifier.parse root.uuid = .ok id) ↔ IdentifiesRoot table := by
  obtain ⟨id, spelled⟩ := uuid_of_firstMounted typed first
  rw [spelled, Identifier.parse_succeeds_iff]
  constructor
  · intro holds
    obtain ⟨number, wellFormed⟩ := holds
    exact ⟨root, id, number, first, spelled, wellFormed⟩
  · intro known
    obtain ⟨other, otherId, number, otherFirst, otherSpelled, wellFormed⟩ := known
    obtain rfl := PartitionTable.firstMounted_unique first otherFirst
    obtain rfl : id = otherId := by simpa [spelled] using otherSpelled
    exact ⟨number, wellFormed⟩

theorem grub_error_iff (typed : context.WellTyped)
    (documented : Documented context ⟨.grub, fields⟩) :
    StageType.renderGrub context ⟨.grub, fields⟩ = .error failure ↔
      Refused context ⟨.grub, fields⟩ failure := by
  obtain ⟨table, planned⟩ := documented.table (.inl (by simp))
  have wellTyped := typed.table table planned
  obtain ⟨_, kernelOptions⟩ :=
    documented.textOr "kernel_options" "" (by simp [StageType.optional])
  obtain ⟨_, kernelVersion⟩ :=
    documented.textOr "kernel_version" "" (by simp [StageType.optional])
  obtain ⟨_, uefi⟩ := documented.flagOr "uefi" false (by simp [StageType.optional])
  obtain ⟨_, legacy⟩ := documented.textOr "legacy" "" (by simp [StageType.optional])
  obtain ⟨_, vendor⟩ := documented.textOr "vendor" "" (by simp [StageType.optional])
  obtain ⟨_, install⟩ := documented.flagOr "install" false (by simp [StageType.optional])
  simp only [StageType.renderGrub, StageType.tableFor, planned, kernelOptions, kernelVersion,
    uefi, legacy, vendor, install, Except.ok_bind, Boot.grubOptions_error_iff,
    PartitionTable.root?, PartitionTable.boot?, rootMountpoint, bootMountpoint,
    PartitionTable.filesystemOf_at?_eq_none_iff, PartitionTable.filesystemOf_at?_eq_some_iff]
  rw [refused_grub_iff planned rfl]
  constructor
  · intro refused
    rcases refused with missing | ⟨root, first, failed | ⟨parsed, boot, firstBoot, failed⟩⟩
    · exact .inl missing
    · exact .inr (.inl ⟨root, first,
        (parse_malformed_iff (uuid_of_firstMounted wellTyped first)).mp failed⟩)
    · exact .inr (.inr ⟨(identifiesRoot_iff wellTyped first).mp parsed, boot, firstBoot,
        (parse_malformed_iff (uuid_of_firstMounted wellTyped firstBoot)).mp failed⟩)
  · intro cause
    rcases cause with missing | ⟨root, first, malformed⟩ | ⟨identified, boot, firstBoot, malformed⟩
    · exact .inl missing
    · exact .inr ⟨root, first, .inl
        ((parse_malformed_iff (uuid_of_firstMounted wellTyped first)).mpr malformed)⟩
    · obtain ⟨root, first⟩ : ∃ root, table.FirstMounted "/" root := by
        obtain ⟨root, _, _, first, _⟩ := identified
        exact ⟨root, first⟩
      exact .inr ⟨root, first, .inr ⟨(identifiesRoot_iff wellTyped first).mpr identified, boot,
        firstBoot, (parse_malformed_iff (uuid_of_firstMounted wellTyped firstBoot)).mpr malformed⟩⟩

theorem imageDevice_ok (documented : Documented context ⟨.copy, fields⟩) :
    ∃ device, StageType.imageDevice ⟨.copy, fields⟩ = .ok (.object device) ∧
      Layout.HasPlainOptions device ∧
      ((Parameters.mk .copy fields).given? "device" = some (.object device) ∨
        ((Parameters.mk .copy fields).given? "device" = none ∧ Layout.IsLoopback device)) := by
  cases given : (Parameters.mk .copy fields).given? "device" with
  | none =>
      obtain ⟨filename, found⟩ := documented.required "filename" (by
        simp [Parameters.required, given])
      obtain ⟨device, made, isLoopback, plain⟩ :=
        Layout.loopback_isLoopback (.text filename) (.int 0) (.int 0)
      exact ⟨device, Parameters.imageDevice_ok_iff.mpr (.inr ⟨given, filename, found, made.symm⟩),
        plain, .inr ⟨rfl, isLoopback⟩⟩
  | some value =>
      obtain ⟨device, rfl, plain⟩ := documented.optional ("device", .device)
        (by simp [StageType.optional]) value given
      exact ⟨device, Parameters.imageDevice_ok_iff.mpr (.inl ⟨device, given, rfl⟩), plain,
        .inl rfl⟩

theorem copy_error_iff (typed : context.WellTyped)
    (documented : Documented context ⟨.copy, fields⟩) :
    (StageType.renderCopy context ⟨.copy, fields⟩).result = .error failure ↔
      Refused context ⟨.copy, fields⟩ failure := by
  obtain ⟨table, planned⟩ := documented.table (.inl (by simp))
  have wellTyped := typed.table table planned
  obtain ⟨device, made, plain, origin⟩ := imageDevice_ok documented
  obtain ⟨inputName, read⟩ :=
    documented.textOr "input_name" "root-tree" (by simp [StageType.optional])
  obtain ⟨pipeline, found⟩ := documented.required "pipeline" (by
    simp only [Parameters.required]; split <;> simp)
  have reduced : (StageType.renderCopy context ⟨.copy, fields⟩).result = .error failure ↔
      (Layout.copyPlan (.text inputName) table (.object device)).result = .error failure := by
    simp [StageType.renderCopy, StageType.tableFor, planned, made, read,
      Parameters.text_of_find? found, Layout.copyStage, Document.asKey, Except.bind_eq_error_iff]
  have mounted : ∀ entry ∈ Layout.mountable table.partitions, entry.2.WellTyped := by
    intro entry member
    obtain ⟨partition, present, filesystem, held, rfl⟩ := Layout.mem_mountable_iff.mp member
    exact wellTyped.filesystem present held
  simp only [reduced, Layout.copyPlan_error_iff, Layout.backingFile_error_iff plain,
    Layout.resolveAll_error_iff (fun entry member => (mounted entry member).mountpoint)
      (fun entry member => (mounted entry member).type)]
  rw [refused_copy_iff planned rfl origin]
  refine or_congr Iff.rfl ?_
  rw [exists_and_right, Layout.backingFile_succeeds_iff, and_iff_left plain]

theorem userRecords_error_iff (surroundings : Surroundings) (typed : context.WellTyped)
    (stage : parameters.stage = .users ∨ parameters.stage = .firstBoot) :
    (Account.userRecords surroundings.salt context.customizations.users).result =
        .error failure ↔
      Refused context parameters failure := by
  rw [refused_password_iff stage, Account.userRecords_error_iff
    (fun user member => (typed.customizations.users user member).password)
    (fun user member => (typed.customizations.users user member).name)]

theorem users_error_iff (typed : context.WellTyped) :
    (StageType.renderUsers surroundings context).result = .error failure ↔
      Refused context ⟨.users, fields⟩ failure := by
  rw [← userRecords_error_iff surroundings typed (.inl rfl)]
  simp [StageType.renderUsers]

theorem renderFirstBoot_error_iff
    (succeeds : ∀ records, (Account.userRecords surroundings.salt
        context.customizations.users).result = .ok records →
      ∃ options, Account.firstBootOptions records = .ok options) :
    (StageType.renderFirstBoot surroundings context).result = .error failure ↔
      (Account.userRecords surroundings.salt context.customizations.users).result =
        .error failure := by
  cases recorded : (Account.userRecords surroundings.salt context.customizations.users).result with
  | error reason => simp [StageType.renderFirstBoot, recorded]
  | ok records =>
      obtain ⟨options, completed⟩ := succeeds records recorded
      simp [StageType.renderFirstBoot, recorded, completed]

theorem firstBoot_error_iff (typed : context.WellTyped) :
    (StageType.renderFirstBoot surroundings context).result = .error failure ↔
      Refused context ⟨.firstBoot, fields⟩ failure := by
  have keys : ¬ Account.KeyTrips context.customizations.users := by
    intro failed
    obtain ⟨user, ⟨before, after, split, _⟩, given, untyped⟩ := failed
    have wellTyped := typed.customizations.users user (by simp [split])
    rcases wellTyped.key with absent | isText
    · rw [absent] at given
      contradiction
    · exact untyped ⟨wellTyped.name, isText⟩
  have succeeds : ∀ records, (Account.userRecords surroundings.salt
      context.customizations.users).result = .ok records →
      ∃ options, Account.firstBootOptions records = .ok options := by
    intro records recorded
    rw [← Account.firstBootOptions_trips_iff recorded] at keys
    cases completed : Account.firstBootOptions records with
    | ok options => exact ⟨options, rfl⟩
    | error cause => exact absurd (by simp [completed]) keys
  rw [renderFirstBoot_error_iff succeeds]
  exact userRecords_error_iff _ typed (.inr rfl)

theorem buildstamp_succeeds (documented : Documented context ⟨.buildstamp, fields⟩) :
    ∃ options, StageType.renderBuildstamp context ⟨.buildstamp, fields⟩ = .ok options := by
  have reads := documented.required
  simp only [Parameters.HasRequired, Parameters.required, List.forall_mem_cons] at reads
  obtain ⟨⟨_, product⟩, ⟨_, version⟩, _⟩ := reads
  obtain ⟨_, variant⟩ := documented.textOr "variant" "" (by simp [StageType.optional])
  simp [StageType.renderBuildstamp, Parameters.text_of_find? product,
    Parameters.text_of_find? version, variant]

theorem fileMode_succeeds (documented : Documented context ⟨.fileMode, fields⟩) :
    ∃ options, StageType.renderFileMode ⟨.fileMode, fields⟩ = .ok options := by
  have reads := documented.required
  simp only [Parameters.HasRequired, Parameters.required, List.forall_mem_cons] at reads
  obtain ⟨⟨_, path⟩, ⟨_, mode⟩, _⟩ := reads
  obtain ⟨_, recursive⟩ := documented.flagOr "recursive" false (by simp [StageType.optional])
  simp [StageType.renderFileMode, Parameters.text_of_find? path, Parameters.text_of_find? mode,
    recursive, Deployment.modeOptions, Document.asKey]

theorem discinfo_succeeds (documented : Documented context ⟨.discinfo, fields⟩) :
    ∃ options,
      StageType.renderDiscinfo surroundings context ⟨.discinfo, fields⟩ = .ok options := by
  obtain ⟨_, release⟩ := documented.text? "release" (by simp [StageType.optional])
  simp [StageType.renderDiscinfo, release]

theorem initialModules_succeeds (typed : context.WellTyped)
    (documented : Documented context ⟨.initialModules, fields⟩) :
    ∃ options, (StageType.renderInitialModules context ⟨.initialModules, fields⟩).result =
      .ok options := by
  have reads := documented.required
  simp only [Parameters.HasRequired, Parameters.required, List.forall_mem_cons] at reads
  obtain ⟨⟨kernelVersion, given⟩, _⟩ := reads
  obtain ⟨additional, read⟩ := documented.texts "additional_modules" (by
    simp [StageType.optional])
  obtain ⟨options, completed⟩ :=
    Installer.initialOptions_succeeds (.text kernelVersion) additional typed.archIsScalar
  exact ⟨options, by
    simp [StageType.renderInitialModules, Parameters.text_of_find? given, read, completed]⟩

theorem webServer_succeeds (documented : Documented context ⟨.webServer, fields⟩) :
    ∃ options, StageType.renderWebServer ⟨.webServer, fields⟩ = .ok options := by
  have reads := documented.required
  simp only [Parameters.HasRequired, Parameters.required, List.forall_mem_cons] at reads
  obtain ⟨⟨_, path⟩, ⟨_, root⟩, ⟨_, listen⟩, _⟩ := reads
  simp [StageType.renderWebServer, Parameters.text_of_find? path, Parameters.text_of_find? root,
    Parameters.text_of_find? listen]

theorem tree_succeeds (documented : Documented context ⟨.tree, fields⟩) :
    ∃ options, StageType.renderTree ⟨.tree, fields⟩ = .ok options := by
  have reads := documented.required
  simp only [Parameters.HasRequired, Parameters.required, List.forall_mem_cons] at reads
  obtain ⟨⟨_, repository⟩, _⟩ := reads
  obtain ⟨_, readOnly⟩ := documented.flagOr "read_only" true (by simp [StageType.optional])
  simp [StageType.renderTree, Parameters.text_of_find? repository, readOnly]

theorem relabel_succeeds (documented : Documented context ⟨.relabel, fields⟩) :
    ∃ options, StageType.renderRelabel ⟨.relabel, fields⟩ = .ok options := by
  obtain ⟨_, labelCopying⟩ := documented.flagOr "label_cp" false (by simp [StageType.optional])
  simp [StageType.renderRelabel, labelCopying]

theorem services_succeeds (documented : Documented context ⟨.services, fields⟩) :
    ∃ options, StageType.renderServices context ⟨.services, fields⟩ = .ok options := by
  obtain ⟨_, enabled⟩ := documented.texts "enabled_services" (by simp [StageType.optional])
  obtain ⟨_, disabled⟩ := documented.texts "disabled_services" (by simp [StageType.optional])
  obtain ⟨_, target⟩ := documented.text? "default_target" (by simp [StageType.optional])
  simp [StageType.renderServices, enabled, disabled, target, Deployment.serviceOptions,
    Document.texts, Document.items]

theorem groups_succeeds (typed : context.WellTyped) :
    ∃ options, Account.groupsOptions context.customizations.groups = .ok options :=
  Account.groupsOptions_succeeds fun group member =>
    (typed.customizations.groups group member).name.isScalar

theorem firewall_succeeds (documented : Documented context ⟨.firewall, fields⟩) :
    ∃ options, StageType.renderFirewall context = .ok options := by
  obtain ⟨firewall, given⟩ := documented.firewall rfl
  simp [StageType.renderFirewall, given]

theorem partitionTable_succeeds (documented : Documented context ⟨.partitionTable, fields⟩) :
    ∃ options, StageType.renderTable context = .ok options := by
  obtain ⟨table, planned⟩ := documented.table (.inl (by simp))
  simp [StageType.renderTable, StageType.tableFor, planned]

end Renderers

variable {fields : Fields} {type : StageType}

theorem renderOptions_succeeds (surroundings : Surroundings) (typed : context.WellTyped)
    (documented : Documented context ⟨type, fields⟩) (safe : type ∉ refusable) :
    ∃ options, (type.renderOptions surroundings context ⟨type, fields⟩).result = .ok options := by
  cases type with
  | installerModules | installerTemplate | efiDirectory | packages => exact ⟨_, rfl⟩
  | buildstamp => exact buildstamp_succeeds documented
  | fileMode => exact fileMode_succeeds documented
  | discinfo => exact discinfo_succeeds documented
  | initialModules => exact initialModules_succeeds typed documented
  | firewall => exact firewall_succeeds documented
  | groups => exact groups_succeeds typed
  | webServer => exact webServer_succeeds documented
  | tree => exact tree_succeeds documented
  | relabel => exact relabel_succeeds documented
  | partitionTable => exact partitionTable_succeeds documented
  | services => exact services_succeeds documented
  | _ => simp [refusable] at safe

theorem renderOptions_error_iff (surroundings : Surroundings) (typed : context.WellTyped)
    (documented : Documented context ⟨type, fields⟩) (plain : type ≠ .copy) :
    (type.renderOptions surroundings context ⟨type, fields⟩).result = .error failure ↔
      Refused context ⟨type, fields⟩ failure := by
  by_cases safe : type ∈ refusable
  · cases type with
    | kickstart => exact kickstart_error_iff documented
    | grub => exact grub_error_iff typed documented
    | kernelCommandLine => exact kernelCommandLine_error_iff documented
    | grubCore => exact grubCore_error_iff documented
    | zipl => exact zipl_error_iff documented
    | installerMedium => exact installerMedium_error_iff typed documented
    | liveMedium => exact liveMedium_error_iff typed documented
    | diskFormat => exact diskFormat_error_iff documented
    | users => exact users_error_iff typed
    | firstBoot => exact firstBoot_error_iff typed
    | mediumAssembly => exact mediumAssembly_error_iff typed documented
    | copy => contradiction
    | _ => simp [refusable] at safe
  · obtain ⟨options, completed⟩ := renderOptions_succeeds surroundings typed documented safe
    simp only [completed, reduceCtorEq, false_iff]
    exact fun refused => safe refused.mem_refusable

theorem render_error_iff (typed : context.WellTyped)
    (documented : Documented context ⟨type, fields⟩) :
    (type.render surroundings context fields).result = .error failure ↔
      Refused context ⟨type, fields⟩ failure := by
  by_cases copy : type = .copy
  · subst copy
    exact copy_error_iff typed documented
  · rw [render_of_ne_copy copy, ← renderOptions_error_iff surroundings typed documented copy]
    simp

/-- A documented request either renders or is refused for one of the causes. -/
theorem renderStage_refused_iff {name : Text} (typed : context.WellTyped)
    (documented : ∀ type, StageType.ofName? name = some type →
      Documented context ⟨type, fields⟩) :
    (∀ failure, (renderStage surroundings context name fields).result = .error failure ↔
      (StageType.ofName? name = none ∧ failure = .invalid (.unknownStage (.text name))) ∨
      ∃ type, StageType.ofName? name = some type ∧
        Refused context ⟨type, fields⟩ failure) ∧
    ¬ Strays (renderStage surroundings context name fields).result := by
  cases known : StageType.ofName? name with
  | none => simp [renderStage, knownType, known, eq_comm (a := (Failure.invalid _))]
  | some type =>
      have settled (failure : Failure) :
          (type.render surroundings context fields).result = .error failure ↔
            Refused context ⟨type, fields⟩ failure :=
        render_error_iff typed (documented type known)
      have reduced : (renderStage surroundings context name fields).result =
          (type.render surroundings context fields).result := by
        rw [renderStage_of_name known]
      refine ⟨fun failure => by simp [reduced, settled failure], ?_⟩
      rw [reduced]
      intro refused
      obtain ⟨failure, failed, stray⟩ := refused
      exact ((settled failure).mp failed).not_isStray stray

/-- A table whose only partition is mounted at the given place. -/
def onlyMounted (place id : String) : PartitionTable where
  type := .text "gpt"
  uuid := .text ""
  partitions := [
    ⟨2048, 1024, .text "", false, .text "", some ⟨.text "xfs", .text id, .text place, .null⟩⟩]

def plainContext (table : PartitionTable) : Context where
  arch := .text "x86_64"
  table := some table
  customizations := ⟨[], [], none, none, none⟩
  repositories := []

theorem wellTyped_plainContext {table : PartitionTable} (typed : table.WellTyped) :
    (plainContext table).WellTyped where
  arch := ⟨"x86_64", rfl, by decide⟩
  table := by
    rintro _ ⟨⟩
    exact typed
  customizations := by constructor <;> simp [plainContext]
  repositories := by simp [plainContext]

theorem plainContext_wellTyped (place id : String) :
    (plainContext (onlyMounted place id)).WellTyped := by
  refine wellTyped_plainContext ⟨⟨_, rfl⟩, ⟨_, rfl⟩, ?_⟩
  intro partition member
  obtain rfl := List.mem_singleton.mp member
  refine ⟨⟨_, rfl⟩, ⟨_, rfl⟩, ?_⟩
  rintro _ ⟨⟩
  exact ⟨⟨_, rfl⟩, ⟨_, rfl⟩, ⟨_, rfl⟩, .inl rfl⟩

theorem grub_documented (table : PartitionTable) :
    Documented (plainContext table) ⟨.grub, []⟩ where
  required := by simp [Parameters.HasRequired, Parameters.required]
  optional := by simp [Parameters.given?, Parameters.find?, Fields.find?]
  table := fun _ => ⟨table, rfl⟩
  firewall := by simp

/-- A missing root filesystem counts before the identifier of the boot filesystem. -/
theorem renderStage_refuses_rootless :
    (renderStage ⟨.builtin, "salt", "token"⟩ (plainContext (onlyMounted "/boot" "none"))
        "org.osbuild.grub2" []).result =
      .error (.invariant (.missingPartition (.text "org.osbuild.grub2") (.text "/"))) := by
  have known : StageType.ofName? "org.osbuild.grub2" = some .grub := StageType.ofName?_name .grub
  have documented : ∀ type, StageType.ofName? "org.osbuild.grub2" = some type →
      Documented (plainContext (onlyMounted "/boot" "none")) ⟨type, []⟩ := by
    intro type named
    obtain rfl := Option.some.inj (known.symm.trans named)
    exact grub_documented _
  refine ((renderStage_refused_iff (plainContext_wellTyped _ _) documented).1 _).mpr
    (.inr ⟨.grub, known, .rootPartition (.inl rfl) rfl ?_⟩)
  simp [PartitionTable.Mounted, onlyMounted]

end ImageStages.Catalog
