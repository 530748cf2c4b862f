import ImageStages.Deployment.Container
import ImageStages.Deployment.System
import ImageStages.Installer.Runtime
import ImageStages.Medium.Tree
import ImageStages.Proofs.Boot.Partition
import ImageStages.Proofs.Document.MadeOf

namespace ImageStages

/-! Stages are made of what they are given.

Beside the values of the context and of the request a stage has texts, truth values and small
numbers.  A value that was never set is left out, so nothing is asked of it. -/

/-! What a context gives to stages, made of scalars of some sort. -/

section Given

variable (kept : Scalar → Prop)

structure User.MadeOf (user : User) : Prop where
  name : user.name.IsText
  uid : user.uid.MadeOfIfSet kept
  gid : user.gid.MadeOfIfSet kept
  description : user.description.MadeOfIfSet kept
  home : user.home.MadeOfIfSet kept
  shell : user.shell.MadeOfIfSet kept
  key : user.key.MadeOfIfSet kept
  groups : ∀ groups, user.groups = some groups → ∀ group ∈ groups, group.MadeOf kept

structure Group.MadeOf (group : Group) : Prop where
  name : group.name.IsText
  gid : group.gid.MadeOfIfSet kept

structure Services.MadeOf (services : Services) : Prop where
  enabled : ∀ service ∈ services.enabled, service.MadeOf kept
  disabled : ∀ service ∈ services.disabled, service.MadeOf kept

structure Firewall.MadeOf (firewall : Firewall) : Prop where
  ports : ∀ port ∈ firewall.ports, port.MadeOf kept
  services : ∀ services, firewall.services = some services → services.MadeOf kept

structure Filesystem.MadeOf (filesystem : Filesystem) : Prop where
  type : filesystem.type.MadeOf kept
  uuid : filesystem.uuid.MadeOf kept
  mountpoint : filesystem.mountpoint.MadeOf kept

structure Partition.MadeOf (partition : Partition) : Prop where
  start : kept (.int partition.start)
  size : kept (.int partition.size)
  type : partition.type.MadeOf kept
  uuid : partition.uuid.MadeOf kept
  filesystem : ∀ filesystem, partition.filesystem = some filesystem → filesystem.MadeOf kept

/-- The values of a table, and the indices of its partitions. -/
structure PartitionTable.MadeOf (table : PartitionTable) : Prop where
  type : table.type.MadeOf kept
  uuid : table.uuid.MadeOf kept
  partitions : ∀ partition ∈ table.partitions, partition.MadeOf kept
  indices : ∀ index < table.partitions.length, kept (.int index)

structure Medium.Branding.MadeOf (branding : Medium.Branding) : Prop where
  vendor : branding.vendor.MadeOf kept
  product : branding.product.MadeOf kept
  version : branding.version.MadeOf kept
  label : branding.label.MadeOf kept

end Given

variable {kept : Scalar → Prop} [Scalar.Common kept]

namespace Account

variable {salt : String} {user : User} {users : List User} {group : Group} {groups : List Group}
  {password : Document} {records fields : Fields}

/-- What is stored for a password is a hash, and nothing where there is none. -/
theorem storedPassword_ok (stored : (storedPassword salt user).result = .ok password) :
    (user.password = .null ∧ password = .null) ∨ (user.password.IsText ∧ password.IsText) := by
  cases given : user.password with
  | scalar scalar =>
      cases scalar with
      | null =>
          left
          simpa [storedPassword, given, Document.isNull, eq_comm] using stored
      | text text =>
          right
          cases hashed : isHash text with
          | true =>
              exact ⟨⟨text, rfl⟩, text, by
                simpa [storedPassword, given, Document.isNull, isHashOf, hashed, eq_comm]
                  using stored⟩
          | false =>
              simp only [storedPassword, given, Document.isNull, isHashOf, hashed,
                Bool.false_eq_true, if_false, Outcome.result_bind, Outcome.result_lift_mishap,
                Except.mapError_ok, Except.ok_bind, Outcome.result_note, Outcome.result_pure,
                Outcome.result_lift, Except.bind_eq_ok_iff, Except.ok.injEq] at stored
              obtain ⟨hash, _, rfl⟩ := stored
              exact ⟨⟨text, rfl⟩, hash, rfl⟩
      | _ => simp [storedPassword, given, Document.isNull, isHashOf] at stored
  | _ => simp [storedPassword, given, Document.isNull, isHashOf] at stored

theorem userRecord_madeOf (made : user.MadeOf kept)
    (stored : (storedPassword salt user).result = .ok password) :
    (userRecord user password).MadeOf kept := by
  have password : password.MadeOfIfSet kept := by
    rcases storedPassword_ok stored with ⟨_, rfl⟩ | ⟨_, text⟩
    · exact Document.madeOfIfSet_null
    · exact text.madeOf.ifSet
  have groups : (writeSection Document.list user.groups).MadeOfIfSet kept := by
    cases given : user.groups with
    | none => exact Document.madeOfIfSet_null
    | some groups => exact Document.madeOfIfSet_list (made.groups groups given)
  refine Document.madeOf_setFields (by simp) ?_
  simp [made.uid, made.gid, groups, made.description, made.home, made.shell, password, made.key]

theorem userRecords_madeOf (made : ∀ user ∈ users, user.MadeOf kept)
    (recorded : (userRecords salt users).result = .ok records) :
    (Document.object records).MadeOf kept := by
  obtain ⟨pairs, each, rfl⟩ := userRecords_ok recorded
  refine Document.madeOf_ofPairs fun pair member => ?_
  obtain ⟨user, present, provisioned⟩ := exists_related each.flip member
  obtain ⟨name, password, spelled, stored, rfl⟩ := provisionUser_ok provisioned
  obtain ⟨text, isText⟩ := (made user present).name
  obtain rfl : Scalar.text text = name := Document.scalar.inj (isText.symm.trans spelled)
  exact ⟨⟨text, rfl⟩, userRecord_madeOf (made user present) stored⟩

theorem groupsOptions_madeOf (made : ∀ group ∈ groups, group.MadeOf kept)
    (rendered : groupsOptions groups = .ok fields) : (Document.object fields).MadeOf kept := by
  simp only [groupsOptions, Except.bind_eq_ok_iff, Except.pure_eq_ok, Except.ok.injEq,
    Except.mapM_eq_ok_iff] at rendered
  obtain ⟨pairs, each, rfl⟩ := rendered
  rw [Document.madeOf_options_iff]
  refine ⟨by simp, ?_⟩
  rw [List.forall_mem_singleton]
  refine Document.madeOf_ofPairs fun pair member => ?_
  obtain ⟨group, present, provisioned⟩ := exists_related each.flip member
  simp only [provisionGroup, Outcome.lift_mishap, Except.bind_eq_ok_iff,
    Except.mapError_eq_ok_iff, Document.asKey_ok_iff, Except.pure_eq_ok,
    Except.ok.injEq] at provisioned
  obtain ⟨name, spelled, rfl⟩ := provisioned
  obtain ⟨text, isText⟩ := (made group present).name
  obtain rfl : Scalar.text text = name := Document.scalar.inj (isText.symm.trans spelled)
  refine ⟨⟨text, rfl⟩, Document.madeOf_setFields (by simp) ?_⟩
  simp [isText, Document.MadeOf.ifSet, (made group present).gid]

end Account

namespace Layout

variable {filename start size : Document} {table : PartitionTable} {partition : Partition}
  {inputName pipeline device : Document} {stage : Stage}

theorem describePartition_madeOf (made : partition.MadeOf kept) :
    (describePartition partition).MadeOf kept := by
  refine Document.madeOf_setFields (by simp) ?_
  have bootable : (if partition.bootable then Document.bool true else .null).MadeOfIfSet kept := by
    split <;> simp [Document.MadeOf.ifSet]
  have start := (Document.madeOf_scalar_iff.mpr made.start).ifSet
  have size := (Document.madeOf_scalar_iff.mpr made.size).ifSet
  simp [bootable, size, start, made.type.ifSet.orElse_null, made.uuid.ifSet.orElse_null]

theorem describeTable_madeOf (made : table.MadeOf kept) :
    (Document.object (describeTable table)).MadeOf kept := by
  have partitions : (Document.list (table.partitions.map describePartition)).MadeOfIfSet kept :=
    Document.madeOfIfSet_list (List.forall_mem_map.mpr fun partition member =>
      describePartition_madeOf (made.partitions partition member))
  refine Document.madeOf_setFields (by simp) ?_
  simp [made.type.ifSet, made.uuid.ifSet.orElse_null, partitions]

theorem loopback_madeOf_iff : (loopback filename start size).MadeOf kept ↔
    filename.MadeOf kept ∧ start.MadeOf kept ∧ size.MadeOf kept := by
  simp [loopback]

theorem resolved_madeOf {entry : Partition × Filesystem} {resolved : Resolved}
    (backing : filename.MadeOf kept) (made : entry.1.MadeOf kept)
    (mounted : entry.2.MadeOf kept) (resolves : Resolves filename entry resolved) :
    resolved.device.MadeOf kept ∧ resolved.mount.toDocument.MadeOf kept := by
  rw [resolves.device, loopback_madeOf_iff, Mount.toDocument, resolves.mountName,
    resolves.source, resolves.target]
  exact ⟨⟨backing, Document.madeOf_scalar_iff.mpr made.start,
    Document.madeOf_scalar_iff.mpr made.size⟩, by simp [mounted.mountpoint]⟩

theorem copyStage_madeOf {name : Text} (made : table.MadeOf kept)
    (backing : ∀ filename, backingFile device = .ok filename → filename.MadeOf kept)
    (rendered : (copyStage (.text name) pipeline table device).result = .ok stage) :
    stage.toDocument.MadeOf kept := by
  simp only [copyStage, Outcome.result_bind, Outcome.result_pure, Outcome.result_lift_mishap,
    Except.bind_eq_ok_iff, Except.mapError_eq_ok_iff, copyPlan_ok_iff, Document.asKey_ok_iff,
    Except.ok.injEq] at rendered
  obtain ⟨_, ⟨filename, all, backed, completed, rfl⟩, input, spelled, rfl⟩ := rendered
  obtain rfl : Scalar.text name = input := Document.scalar.inj spelled
  have each : ∀ resolved ∈ all,
      resolved.device.MadeOf kept ∧ resolved.mount.toDocument.MadeOf kept := by
    intro resolved member
    obtain ⟨entry, mounted, resolves⟩ :=
      exists_related (resolveAll_resolves completed).flip member
    obtain ⟨partition, present, filesystem, held, rfl⟩ := mem_mountable_iff.mp mounted
    have made := made.partitions partition present
    exact resolved_madeOf (backing filename backed) made (made.filesystem filesystem held)
      resolves
  have devices : (Document.object (Fields.ofPairs
      (all.map fun entry => (.text entry.name, entry.device)))).MadeOf kept := by
    refine Document.madeOf_ofPairs fun pair member => ?_
    obtain ⟨resolved, present, rfl⟩ := List.mem_map.mp member
    exact ⟨⟨resolved.name, rfl⟩, (each resolved present).1⟩
  have mounts : ∀ mount ∈ sortMounts (all.map (·.mount)), mount.toDocument.MadeOf kept := by
    intro mount member
    obtain ⟨resolved, present, rfl⟩ :=
      List.mem_map.mp ((sortMounts_perm _).mem_iff.mp member)
    exact (each resolved present).2
  have inputs (reference : Document) (referred : reference.MadeOf kept) :
      (Document.object [(.text name, reference)]).MadeOf kept := by
    have made : (Document.record [(name, reference)]).MadeOf kept :=
      Document.madeOf_record_iff.mpr ⟨by simp, by simpa⟩
    exact made
  simpa [Stage.toDocument, devices, inputs, Document.madeOf_options_iff] using mounts

end Layout

namespace Boot

variable {root boot : Option Partition} {request : GrubRequest} {table : PartitionTable}
  {filename platform kernel rootId kernelOptions : Document} {fields : Fields}

theorem commandLine_madeOf (plain : request.kernelOptions.MadeOf kept) :
    request.commandLine.MadeOf kept := by
  unfold GrubRequest.commandLine
  split
  · split
    · exact Document.madeOf_text _
    · exact plain
  · exact plain

/-- The configuration of grub2, up to whether it names a boot filesystem. -/
theorem grubOptions_ok (made : grubOptions root boot request = .ok fields) :
    ∃ rootId bootId, (bootId = [] ∨ ∃ id, bootId = [(("boot_fs_uuid" : Text), Document.text id)]) ∧
      fields = options (("root_fs_uuid", .text rootId) :: (bootId ++
        (("kernel_opts" : Text), request.commandLine) ::
          (request.firmware ++ request.defaultEntry))) := by
  cases held : filesystemOf root with
  | none => simp [grubOptions, held] at made
  | some rootFilesystem =>
      cases heldBoot : filesystemOf boot with
      | none =>
          simp only [grubOptions, held, heldBoot, Except.bind_eq_ok_iff, Except.pure_eq_ok,
            Except.ok.injEq] at made
          obtain ⟨rootId, _, _, rfl, rfl⟩ := made
          exact ⟨rootId, [], .inl rfl, rfl⟩
      | some bootFilesystem =>
          simp only [grubOptions, held, heldBoot, Except.bind_eq_ok_iff, Except.pure_eq_ok,
            Except.ok.injEq] at made
          obtain ⟨rootId, _, id, _, _, rfl, rfl⟩ := made
          exact ⟨rootId, _, .inr ⟨id, rfl⟩, rfl⟩

theorem grubOptions_madeOf (plain : request.kernelOptions.MadeOf kept)
    (legacy : request.legacy.MadeOf kept) (vendor : request.vendor.MadeOf kept)
    (install : request.install.MadeOf kept)
    (made : grubOptions root boot request = .ok fields) : (Document.object fields).MadeOf kept := by
  have commandLine := commandLine_madeOf plain
  obtain ⟨rootId, bootId, identified, rfl⟩ := grubOptions_ok made
  rw [Document.madeOf_options_iff]
  unfold GrubRequest.firmware GrubRequest.defaultEntry
  rcases identified with rfl | ⟨id, rfl⟩
  all_goals
    split <;> [skip; split] <;> split <;> simp [commandLine, legacy, vendor, install]

theorem grubCoreOptions_madeOf (made : table.MadeOf kept)
    (given : filename.MadeOf kept) (named : platform.MadeOf kept)
    (rendered : (grubCoreOptions filename table platform).result = .ok fields) :
    (Document.object fields).MadeOf kept := by
  simp only [grubCoreOptions, Outcome.result_bind, Outcome.result_lift,
    Except.bind_eq_ok_iff] at rendered
  obtain ⟨index, _, rendered⟩ := rendered
  split at rendered
  · rename_i bootFilesystem first held head
    simp only [Outcome.result_bind, Outcome.result_note, Outcome.result_pure, Except.ok_bind,
      Except.ok.injEq] at rendered
    obtain ⟨partition, present, stored⟩ := Option.bind_eq_some_iff.mp held
    obtain ⟨inside, rfl⟩ := List.getElem?_eq_some_iff.mp present
    have bootFilesystem := ((made.partitions _ (List.getElem_mem inside)).filesystem _ stored).type
    have start := Document.madeOf_scalar_iff.mpr
      (made.partitions first (List.mem_of_mem_head? head)).start
    have number := Document.madeOf_scalar_iff.mpr (made.indices index inside)
    subst rendered
    simp [Document.madeOf_options_iff, given, named, start, made.type, bootFilesystem, number]
  · simp at rendered

omit [Scalar.Common kept] in
theorem ziplOptions_madeOf (made : table.MadeOf kept) (given : kernel.MadeOf kept)
    (rendered : ziplOptions kernel table = .ok fields) : (Document.object fields).MadeOf kept := by
  simp only [ziplOptions, Except.bind_eq_ok_iff] at rendered
  obtain ⟨index, _, rendered⟩ := rendered
  split at rendered
  · rename_i partition present
    have start := Document.madeOf_scalar_iff.mpr
      (made.partitions partition (List.mem_of_getElem? present)).start
    obtain rfl := Except.ok.inj rendered
    simp [Document.madeOf_options_iff, given, start]
  · cases rendered

omit [Scalar.Common kept] in
theorem commandLineOptions_madeOf (identified : rootId.MadeOf kept)
    (given : kernelOptions.MadeOf kept) :
    (Document.object (commandLineOptions rootId kernelOptions)).MadeOf kept := by
  simp [commandLineOptions, Document.madeOf_options_iff, identified, given]

end Boot

namespace Medium

variable {settings : Settings} {arch filename format compat legacy release : Document}
  {kernelVersion installDevice label volume : Document} {branding : Branding} {fields : Fields}

omit [Scalar.Common kept] in
theorem productRecord_madeOf (made : branding.MadeOf kept) :
    branding.productRecord.MadeOf kept := by
  simp [Branding.productRecord, made.product, made.version]

theorem rootfsSize_madeOf : (Document.int rootfsSize).MadeOf kept :=
  Document.madeOf_small (by decide)

theorem installerOptions_madeOf (given : kernelVersion.MadeOf kept) (branded : branding.MadeOf kept)
    (made : (installerOptions settings kernelVersion arch branding).result = .ok fields) :
    (Document.object fields).MadeOf kept := by
  simp only [installerOptions, Outcome.result_bind, Outcome.result_lift,
    Outcome.result_lift_mishap, Outcome.result_note, Outcome.result_pure,
    Except.bind_eq_ok_iff, Except.ok.injEq] at made
  obtain ⟨names, _, filter, _, hasLegacy, _, _, _, rfl⟩ := made
  have compression : (Document.record
      (filter.toList.map fun name : String =>
        (("bcj" : Text), Document.text name))).MadeOf kept := by
    cases filter <;> simp
  simp [Document.madeOf_options_iff, productRecord_madeOf branded, branded.label,
    branded.vendor, given, rootfsSize_madeOf, compression]

theorem liveOptions_madeOf (branded : branding.MadeOf kept)
    (made : liveOptions settings installDevice arch branding = .ok fields) :
    (Document.object fields).MadeOf kept := by
  simp only [liveOptions, Except.bind_eq_ok_iff, Except.pure_eq_ok, Except.ok.injEq] at made
  obtain ⟨names, _, rfl⟩ := made
  simp [Document.madeOf_options_iff, productRecord_madeOf branded, branded.label,
    branded.vendor]

theorem discinfoOptions_madeOf (named : arch.MadeOf kept) (given : release.MadeOfIfSet kept) :
    (Document.object (discinfoOptions settings arch release)).MadeOf kept := by
  have builtin : (Document.text (settings.text .discinfoRelease)).MadeOf kept :=
    Document.madeOf_text _
  have released := given.orElse builtin
  simp [discinfoOptions, Document.madeOf_options_iff, named, released]

/-- A template that is a text is filled to a text. -/
theorem volumeId_madeOf {template : Text}
    (made : volumeId (.text template) arch = .ok volume) : volume.MadeOf kept := by
  simp only [volumeId, combine, Except.mapError_eq_ok_iff, Except.map_eq_ok_iff] at made
  obtain ⟨filled, _, rfl⟩ := made
  exact Document.madeOf_text _

theorem assemblyOptions_madeOf {template : Text} (given : filename.MadeOf kept)
    (made : assemblyOptions filename (.text template) arch legacy = .ok fields) :
    (Document.object fields).MadeOf kept := by
  simp only [assemblyOptions, Except.bind_eq_ok_iff, Except.pure_eq_ok,
    Except.ok.injEq] at made
  obtain ⟨volume, filled, rfl⟩ := made
  have volume : volume.MadeOf kept := volumeId_madeOf filled
  split <;> simp [legacyBoot, Document.madeOf_options_iff, given, volume]

theorem conversionOptions_madeOf (given : filename.MadeOf kept) (named : format.MadeOf kept)
    (leveled : compat.MadeOf kept) (made : conversionOptions filename format compat = .ok fields) :
    (Document.object fields).MadeOf kept := by
  simp only [conversionOptions, Except.bind_eq_ok_iff, Except.pure_eq_ok,
    Except.ok.injEq] at made
  obtain ⟨record, formatted, rfl⟩ := made
  have record : (Document.object record).MadeOf kept := by
    unfold formatRecord at formatted
    split at formatted
    · obtain rfl := Except.ok.inj formatted
      split <;> simp [Document.madeOf_options_iff, leveled]
    · split at formatted
      · obtain rfl := Except.ok.inj formatted
        simp [Document.madeOf_options_iff, named]
      · cases formatted
  simp [Document.madeOf_options_iff, given, record]

end Medium

namespace Deployment

variable {path root listen mode recursive repository readOnly labelCopying target : Document}
  {repositories : List Repository} {firewall : Firewall} {services : Option Services}
  {enabled disabled : List Text} {fields : Fields}

theorem webServerOptions_madeOf (given : path.MadeOf kept) (rooted : root.MadeOf kept)
    (listens : listen.MadeOf kept) :
    (Document.object (webServerOptions path root listen)).MadeOf kept := by
  simp [webServerOptions, Document.madeOf_options_iff, given, rooted, listens]

omit [Scalar.Common kept] in
theorem modeOptions_madeOf {name : Text} (given : mode.MadeOf kept)
    (deep : recursive.MadeOf kept) (made : modeOptions (.text name) mode recursive = .ok fields) :
    (Document.object fields).MadeOf kept := by
  simp only [modeOptions, Except.bind_eq_ok_iff, Except.pure_eq_ok, Except.ok.injEq,
    Document.asKey_ok_iff] at made
  obtain ⟨key, spelled, rfl⟩ := made
  obtain rfl : Scalar.text name = key := Document.scalar.inj spelled
  have item : (Document.record [("mode", mode), ("recursive", recursive)]).MadeOf kept := by
    simp [given, deep]
  have items : (Document.record [(name,
      Document.record [("mode", mode), ("recursive", recursive)])]).MadeOf kept :=
    Document.madeOf_record_iff.mpr ⟨by simp, List.forall_mem_singleton.mpr item⟩
  exact Document.madeOf_options_iff.mpr ⟨by simp, List.forall_mem_singleton.mpr items⟩

theorem treeOptions_madeOf (given : repository.MadeOf kept) (sealed : readOnly.MadeOf kept) :
    (Document.object (treeOptions repository readOnly)).MadeOf kept := by
  simp [treeOptions, Document.madeOf_options_iff, given, sealed]

theorem efiDirectoryOptions_madeOf : (Document.object efiDirectoryOptions).MadeOf kept := by
  have mode : (Document.int 0o700).MadeOf kept := Document.madeOf_small (by decide)
  simp [efiDirectoryOptions, Document.madeOf_options_iff, mode]

omit [Scalar.Common kept] in
theorem packageOptions_madeOf
    (made : ∀ repository ∈ repositories, repository.gpgkey.MadeOf kept) :
    (Document.object (packageOptions repositories)).MadeOf kept := by
  have keys : (Document.list ((repositories.map (·.gpgkey)).filter Document.given)).MadeOfIfSet
      kept := by
    refine Document.madeOfIfSet_list fun key member => ?_
    obtain ⟨repository, present, rfl⟩ := List.mem_map.mp (List.mem_of_mem_filter member)
    exact made repository present
  exact Document.madeOf_setFields (by simp) (List.forall_mem_singleton.mpr keys)

theorem relabelOptions_madeOf :
    (Document.object (relabelOptions labelCopying)).MadeOf kept := by
  unfold relabelOptions
  split <;> simp [installerLabels, Document.madeOf_options_iff]

omit [Scalar.Common kept] in
theorem firewallOptions_madeOf (made : firewall.MadeOf kept) :
    (Document.object (firewallOptions firewall)).MadeOf kept := by
  have ports := Document.madeOfIfSet_list made.ports
  unfold firewallOptions
  cases given : firewall.services with
  | none => exact Document.madeOf_setFields (by simp) (by simpa using ports)
  | some known =>
      have services := made.services known given
      have enabled := Document.madeOfIfSet_list services.enabled
      have disabled := Document.madeOfIfSet_list services.disabled
      exact Document.madeOf_setFields (by simp) (by simp [ports, enabled, disabled])

theorem serviceOptions_madeOf (default : target.MadeOfIfSet kept)
    (made : ∀ known, services = some known → known.MadeOf kept)
    (rendered : serviceOptions (.texts enabled) (.texts disabled) services target = .ok fields) :
    (Document.object fields).MadeOf kept := by
  have added : (services.getD ⟨[], []⟩).MadeOf kept := by
    cases services with
    | none => exact ⟨by simp, by simp⟩
    | some known => exact made known rfl
  have given (names : List Text) : ∀ item ∈ names.map Document.text, item.MadeOf kept :=
    Document.madeOf_list_iff.mp (Document.madeOf_texts names)
  simp only [serviceOptions, Document.texts, Document.items_list, Except.ok_bind,
    Except.pure_eq_ok, Except.ok.injEq] at rendered
  subst rendered
  have enabled := Document.madeOfIfSet_list
    (List.forall_mem_append.mpr ⟨given enabled, added.enabled⟩)
  have disabled := Document.madeOfIfSet_list
    (List.forall_mem_append.mpr ⟨given disabled, added.disabled⟩)
  refine Document.madeOf_setFields (by simp) ?_
  simp [enabled, disabled, default.orElse_null]

end Deployment

namespace Installer

variable {settings : Settings} {arch url ref kernelVersion product version variant : Document}
  {additional : List Text} {fields : Fields}

theorem tarKickstart_madeOf (given : url.MadeOf kept) :
    (Document.object (tarKickstart url)).MadeOf kept := by
  simp [tarKickstart, Document.madeOf_options_iff, given]

theorem commitKickstart_madeOf (given : url.MadeOf kept) (referred : ref.MadeOf kept) :
    (Document.object (commitKickstart settings url ref)).MadeOf kept := by
  simp [commitKickstart, Document.madeOf_options_iff, given, referred]

theorem moduleOptions_madeOf : (Document.object moduleOptions).MadeOf kept := by
  simp [moduleOptions, Document.madeOf_options_iff]

theorem templateOptions_madeOf (named : arch.MadeOf kept) :
    (Document.object (templateOptions settings arch)).MadeOf kept := by
  simp [templateOptions, Document.madeOf_options_iff, named]

theorem initialOptions_madeOf (given : kernelVersion.MadeOf kept)
    (made : (initialOptions kernelVersion arch (.texts additional)).result = .ok fields) :
    (Document.object fields).MadeOf kept := by
  simp only [initialOptions, initialModules, Outcome.result_bind, Outcome.result_lift_mishap,
    Outcome.result_note, Outcome.result_pure, Except.bind_eq_ok_iff, Except.mapError_eq_ok_iff,
    Except.pure_eq_ok, Except.ok.injEq] at made
  obtain ⟨modules, ⟨_, _, listed⟩, _, _, rfl⟩ := made
  have modules : ∃ names : List Text, modules = names.map .text := by
    split at listed
    · obtain rfl := Except.ok.inj listed
      exact ⟨_ ++ additional, List.map_append.symm⟩
    · obtain rfl := Except.ok.inj listed
      exact ⟨_, List.append_nil _⟩
  obtain ⟨names, rfl⟩ := modules
  have named : (Document.list (names.map .text)).MadeOf kept := Document.madeOf_texts names
  simp only [Document.madeOf_options_iff, List.forall_mem_cons]
  exact ⟨by simp, by simpa using given, named, by simp⟩

theorem buildstampOptions_madeOf (named : arch.MadeOf kept) (produced : product.MadeOf kept)
    (versioned : version.MadeOf kept) (varied : variant.MadeOf kept) :
    (Document.object (buildstampOptions arch product version variant)).MadeOf kept := by
  simp [buildstampOptions, Document.madeOf_options_iff, named, produced, versioned, varied]

end Installer

end ImageStages
