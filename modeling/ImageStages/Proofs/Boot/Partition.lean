import ImageStages.Proofs.Catalog.Refusals

namespace ImageStages

/-! The boot partition of a table, on which all boot loader stages agree.

One stage asks for the index of the boot partition, another for its place on the disk, and
the third looks up the boot and the root filesystem apart. -/

/-- What a path of names leads to. -/
def Document.reach? (value : Document) : List Text → Option Document
  | [] => some value
  | name :: rest =>
      match value with
      | .object fields => (Fields.find? fields (.text name)).bind (·.reach? rest)
      | _ => none

theorem Document.reach?_field (fields : Fields) (name : Text) :
    (Document.object fields).reach? [name] = Fields.find? fields (.text name) := by
  cases found : Fields.find? fields (.text name) <;> simp [reach?, found]

def Stage.option? (stage : Stage) (path : List Text) : Option Document :=
  (Document.object stage.options).reach? path

namespace PartitionTable

variable {table : PartitionTable} {place : String} {index : Nat} {partition : Partition}
  {filesystem : Filesystem}

/-- The partition at the index holds the filesystem, which is mounted at the place, and no
partition before it is. -/
structure FirstAt (table : PartitionTable) (place : String) (index : Nat)
    (partition : Partition) (filesystem : Filesystem) : Prop where
  present : table.partitions[index]? = some partition
  held : partition.filesystem = some filesystem
  mounted : filesystem.mountpoint = .text place
  first : ∀ earlier other, earlier < index → table.partitions[earlier]? = some other →
    other.mountpoint ≠ .text place

theorem FirstAt.isMounted (first : table.FirstAt place index partition filesystem) :
    table.Mounted place :=
  ⟨partition, List.mem_of_getElem? first.present, filesystem, first.held, first.mounted⟩

theorem FirstAt.find? (first : table.FirstAt place index partition filesystem) :
    table.find? (.text place) = some index := by
  obtain ⟨inside, same⟩ := List.getElem?_eq_some_iff.mp first.present
  refine List.findIdx?_eq_some_iff_getElem.mpr ⟨inside, ?_, ?_⟩
  · rw [Document.same_text_iff, same]
    exact Partition.mountpoint_eq_text_iff.mpr ⟨filesystem, first.held, first.mounted⟩
  · intro earlier before
    rw [Document.same_text_iff]
    exact first.first earlier _ before (List.getElem?_eq_getElem (Nat.lt_trans before inside))

theorem firstAt_of_find? (found : table.find? (.text place) = some index) :
    ∃ partition filesystem, table.FirstAt place index partition filesystem := by
  obtain ⟨partition, filesystem, present, held, mounted⟩ := find?_eq_some found
  obtain ⟨inside, _, others⟩ := List.findIdx?_eq_some_iff_getElem.mp found
  refine ⟨partition, filesystem, present, held, mounted, ?_⟩
  intro earlier other before stands contrary
  obtain ⟨_, rfl⟩ := List.getElem?_eq_some_iff.mp stands
  exact others earlier before (Document.same_text_iff.mpr contrary)

theorem FirstAt.filesystemOf_at? (first : table.FirstAt place index partition filesystem) :
    Boot.filesystemOf (table.at? (.text place)) = some filesystem := by
  simp [at?, first.find?, first.present, Boot.filesystemOf, first.held]

/-- The boot partition is the first that is mounted for the boot files alone, else the
first that is mounted at the root. -/
inductive BootsFrom (table : PartitionTable) (index : Nat) (partition : Partition)
    (filesystem : Filesystem) : Prop where
  | dedicated (first : table.FirstAt "/boot" index partition filesystem)
  | root (shared : ¬ table.Mounted "/boot")
      (first : table.FirstAt "/" index partition filesystem)

theorem BootsFrom.present (boots : table.BootsFrom index partition filesystem) :
    table.partitions[index]? = some partition := by
  cases boots with
  | dedicated first => exact first.present
  | root _ first => exact first.present

theorem BootsFrom.held (boots : table.BootsFrom index partition filesystem) :
    partition.filesystem = some filesystem := by
  cases boots with
  | dedicated first => exact first.held
  | root _ first => exact first.held

theorem BootsFrom.bootIndex? (boots : table.BootsFrom index partition filesystem) :
    table.bootIndex? = some index := by
  cases boots with
  | dedicated first =>
      have found := first.find?
      rw [PartitionTable.bootIndex?, bootMountpoint, found]
      rfl
  | root shared first =>
      have absent := find?_eq_none_iff.mpr shared
      have found := first.find?
      rw [PartitionTable.bootIndex?, bootMountpoint, rootMountpoint, absent, found]
      rfl

theorem bootsFrom_of_bootIndex? (found : table.bootIndex? = some index) :
    ∃ partition filesystem, table.BootsFrom index partition filesystem := by
  rcases Option.or_eq_some_iff.mp found with dedicated | ⟨absent, root⟩
  · obtain ⟨partition, filesystem, first⟩ := firstAt_of_find? dedicated
    exact ⟨partition, filesystem, .dedicated first⟩
  · obtain ⟨partition, filesystem, first⟩ := firstAt_of_find? root
    exact ⟨partition, filesystem, .root (find?_eq_none_iff.mp absent) first⟩

/-- A table without a boot partition mounts neither the boot files nor the root. -/
theorem unmounted_of_not_bootsFrom
    (none : ∀ index partition filesystem, ¬ table.BootsFrom index partition filesystem) :
    ¬ table.Mounted "/boot" ∧ ¬ table.Mounted "/" := by
  rw [← bootIndex?_eq_none_iff]
  cases found : table.bootIndex? with
  | none => rfl
  | some index =>
      obtain ⟨partition, filesystem, boots⟩ := bootsFrom_of_bootIndex? found
      exact absurd boots (none index partition filesystem)

/-- Where grub2 finds its files tells whether the boot filesystem is a dedicated one. -/
theorem BootsFrom.grubDirectory (boots : table.BootsFrom index partition filesystem) :
    (table.Mounted "/boot" ∧ Boot.grubDirectory filesystem = "/grub2") ∨
      (¬ table.Mounted "/boot" ∧ Boot.grubDirectory filesystem = "/boot/grub2") := by
  cases boots with
  | dedicated first =>
      have mounted := Document.same_text_iff.mpr first.mounted
      exact .inl ⟨first.isMounted, if_pos mounted⟩
  | root shared first =>
      refine .inr ⟨shared, if_neg ?_⟩
      rw [bootMountpoint, Document.same_text_iff, first.mounted]
      simp

end PartitionTable

namespace Boot

variable {table : PartitionTable} {index : Nat} {partition : Partition} {filesystem : Filesystem}

theorem grubCoreOptions_of_bootsFrom (boots : table.BootsFrom index partition filesystem)
    (filename platform : Document) :
    ∃ fields, (grubCoreOptions filename table platform).result = .ok fields ∧
      (Document.object fields).reach? ["prefix", "number"] = some (.int index) ∧
      (Document.object fields).reach? ["core", "filesystem"] = some filesystem.type ∧
      (Document.object fields).reach? ["prefix", "path"] =
        some (.text (grubDirectory filesystem)) := by
  have present := boots.present
  obtain ⟨first, head⟩ : ∃ first, table.partitions.head? = some first := by
    cases partitions : table.partitions with
    | nil => simp [partitions] at present
    | cons first rest => exact ⟨first, rfl⟩
  simp only [grubCoreOptions, PartitionTable.bootIndex, boots.bootIndex?, present, boots.held,
    head, filesystemOf, Option.bind_some, Outcome.result_bind, Outcome.result_lift,
    Outcome.result_note, Outcome.result_pure, Except.ok_bind, Except.ok.injEq, exists_eq_left']
  exact ⟨rfl, rfl, rfl⟩

theorem ziplOptions_of_bootsFrom (boots : table.BootsFrom index partition filesystem)
    (kernel : Document) :
    ∃ fields, ziplOptions kernel table = .ok fields ∧
      (Document.object fields).reach? ["location"] = some (.int partition.start) := by
  simp only [ziplOptions, PartitionTable.bootIndex, boots.bootIndex?, boots.present,
    Except.ok_bind, Except.pure_eq_ok, Except.ok.injEq, exists_eq_left']
  rfl

/-- The identifiers in the configuration of grub2 are those of the filesystems that it is
given. -/
theorem grubOptions_identifiers {root boot : Option Partition} {request : GrubRequest}
    {fields : Fields} (made : grubOptions root boot request = .ok fields) :
    ∃ rootFilesystem rootId, filesystemOf root = some rootFilesystem ∧
      Identifier.parse rootFilesystem.uuid = .ok rootId ∧
      Fields.find? fields (.text "root_fs_uuid") = some (.text rootId) ∧
      ((filesystemOf boot = none ∧ Fields.find? fields (.text "boot_fs_uuid") = none) ∨
        ∃ bootFilesystem bootId, filesystemOf boot = some bootFilesystem ∧
          Identifier.parse bootFilesystem.uuid = .ok bootId ∧
          Fields.find? fields (.text "boot_fs_uuid") = some (.text bootId)) := by
  cases held : filesystemOf root with
  | none => simp [grubOptions, held] at made
  | some rootFilesystem =>
      cases heldBoot : filesystemOf boot with
      | none =>
          simp only [grubOptions, held, heldBoot, Except.bind_eq_ok_iff, Except.pure_eq_ok,
            Except.ok.injEq] at made
          obtain ⟨rootId, parsed, _, rfl, rfl⟩ := made
          refine ⟨rootFilesystem, rootId, rfl, parsed, rfl, .inl ⟨rfl, ?_⟩⟩
          -- What follows the root identifier depends on the firmware and on the default entry.
          unfold GrubRequest.firmware GrubRequest.defaultEntry
          split <;> [skip; split] <;> split <;> rfl
      | some bootFilesystem =>
          simp only [grubOptions, held, heldBoot, Except.bind_eq_ok_iff, Except.pure_eq_ok,
            Except.ok.injEq] at made
          obtain ⟨rootId, parsed, bootId, parsedBoot, _, rfl, rfl⟩ := made
          exact ⟨rootFilesystem, rootId, rfl, parsed, rfl,
            .inr ⟨bootFilesystem, bootId, rfl, parsedBoot, rfl⟩⟩

end Boot

namespace Catalog

variable {surroundings : Surroundings} {context : Context} {table : PartitionTable}
  {index : Nat} {partition : Partition} {filesystem : Filesystem}

/-- The boot loader stages of a context take the same partition for the boot partition. -/
structure BootsAlike (surroundings : Surroundings) (context : Context) (table : PartitionTable)
    (index : Nat) (partition : Partition) (filesystem : Filesystem) : Prop where
  core : ∀ fields, Documented context ⟨.grubCore, fields⟩ → ∃ stage,
    (renderStage surroundings context StageType.grubCore.name fields).result = .ok stage ∧
    stage.option? ["prefix", "number"] = some (.int index) ∧
    stage.option? ["core", "filesystem"] = some filesystem.type ∧
    ((table.Mounted "/boot" ∧ stage.option? ["prefix", "path"] = some (.text "/grub2")) ∨
      (¬ table.Mounted "/boot" ∧
        stage.option? ["prefix", "path"] = some (.text "/boot/grub2")))
  loader : ∀ fields, Documented context ⟨.zipl, fields⟩ → ∃ stage,
    (renderStage surroundings context StageType.zipl.name fields).result = .ok stage ∧
    stage.option? ["location"] = some (.int partition.start)
  configuration : ∀ fields stage,
    (renderStage surroundings context StageType.grub.name fields).result = .ok stage →
    ∃ id number, filesystem.uuid = .text id ∧ Identifier.valueOf id = .ok number ∧
      ((table.Mounted "/boot" ∧
          stage.option? ["boot_fs_uuid"] = some (.text (Identifier.canonical number))) ∨
        (¬ table.Mounted "/boot" ∧ stage.option? ["boot_fs_uuid"] = none ∧
          stage.option? ["root_fs_uuid"] = some (.text (Identifier.canonical number))))

/-- No boot loader stage of a context can do without a boot partition. -/
structure LacksBoot (surroundings : Surroundings) (context : Context) : Prop where
  core : ∀ fields, Documented context ⟨.grubCore, fields⟩ →
    (renderStage surroundings context StageType.grubCore.name fields).result =
      .error (.invariant (.missingPartition (.text StageType.grubCore.name) (.text "/boot")))
  loader : ∀ fields, Documented context ⟨.zipl, fields⟩ →
    (renderStage surroundings context StageType.zipl.name fields).result =
      .error (.invariant (.missingPartition (.text StageType.zipl.name) (.text "/boot")))
  configuration : ∀ fields, Documented context ⟨.grub, fields⟩ →
    (renderStage surroundings context StageType.grub.name fields).result =
      .error (.invariant (.missingPartition (.text StageType.grub.name) (.text "/")))

section BootsFrom

variable {fields : Fields}

theorem renderGrubCore_of_bootsFrom (planned : context.table = some table)
    (boots : table.BootsFrom index partition filesystem)
    (documented : Documented context ⟨.grubCore, fields⟩) :
    ∃ options, (StageType.renderGrubCore context ⟨.grubCore, fields⟩).result = .ok options ∧
      (Document.object options).reach? ["prefix", "number"] = some (.int index) ∧
      (Document.object options).reach? ["core", "filesystem"] = some filesystem.type ∧
      (Document.object options).reach? ["prefix", "path"] =
        some (.text (Boot.grubDirectory filesystem)) := by
  have reads := documented.required
  simp only [Parameters.HasRequired, Parameters.required, List.forall_mem_cons] at reads
  obtain ⟨⟨filename, givenFilename⟩, ⟨platform, givenPlatform⟩, _⟩ := reads
  simp only [StageType.renderGrubCore, StageType.tableFor, planned,
    Parameters.text_of_find? givenFilename, Parameters.text_of_find? givenPlatform,
    Outcome.result_bind, Outcome.result_lift, Except.ok_bind]
  exact Boot.grubCoreOptions_of_bootsFrom boots (.text filename) (.text platform)

theorem renderZipl_of_bootsFrom (planned : context.table = some table)
    (boots : table.BootsFrom index partition filesystem)
    (documented : Documented context ⟨.zipl, fields⟩) :
    ∃ options, StageType.renderZipl context ⟨.zipl, fields⟩ = .ok options ∧
      (Document.object options).reach? ["location"] = some (.int partition.start) := by
  have reads := documented.required
  simp only [Parameters.HasRequired, Parameters.required, List.forall_mem_cons] at reads
  obtain ⟨⟨kernel, givenKernel⟩, _⟩ := reads
  simp only [StageType.renderZipl, StageType.tableFor, planned,
    Parameters.text_of_find? givenKernel, Except.ok_bind]
  exact Boot.ziplOptions_of_bootsFrom boots (.text kernel)

theorem renderGrub_configures {options : Fields} (planned : context.table = some table)
    (rendered : StageType.renderGrub context ⟨.grub, fields⟩ = .ok options) :
    ∃ request, Boot.grubOptions table.root? table.boot? request = .ok options := by
  simp only [StageType.renderGrub, StageType.tableFor, planned, Except.ok_bind,
    Except.bind_eq_ok_iff] at rendered
  obtain ⟨_, _, _, _, _, _, _, _, _, _, _, _, configured⟩ := rendered
  exact ⟨_, configured⟩

/-- Grub2 is configured with the identifier of the boot filesystem: its own where there is
a dedicated one, else as that of the root. -/
theorem renderGrub_of_bootsFrom {options : Fields} (planned : context.table = some table)
    (boots : table.BootsFrom index partition filesystem)
    (rendered : StageType.renderGrub context ⟨.grub, fields⟩ = .ok options) :
    ∃ id, Identifier.parse filesystem.uuid = .ok id ∧
      ((table.Mounted "/boot" ∧
          Fields.find? options (.text "boot_fs_uuid") = some (.text id)) ∨
        (¬ table.Mounted "/boot" ∧ Fields.find? options (.text "boot_fs_uuid") = none ∧
          Fields.find? options (.text "root_fs_uuid") = some (.text id))) := by
  obtain ⟨request, configured⟩ := renderGrub_configures planned rendered
  obtain ⟨root, rootId, heldRoot, parsedRoot, rootOption, identifiers⟩ :=
    Boot.grubOptions_identifiers configured
  cases boots with
  | dedicated first =>
      have heldBoot : Boot.filesystemOf table.boot? = some filesystem := first.filesystemOf_at?
      rcases identifiers with ⟨absent, _⟩ | ⟨boot, bootId, held, parsed, bootOption⟩
      · rw [heldBoot] at absent
        contradiction
      · obtain rfl : filesystem = boot := Option.some.inj (heldBoot.symm.trans held)
        exact ⟨bootId, parsed, .inl ⟨first.isMounted, bootOption⟩⟩
  | root shared first =>
      have held : Boot.filesystemOf table.root? = some filesystem := first.filesystemOf_at?
      have noBoot : Boot.filesystemOf table.boot? = none :=
        PartitionTable.filesystemOf_at?_eq_none_iff.mpr shared
      obtain rfl : filesystem = root := Option.some.inj (held.symm.trans heldRoot)
      rcases identifiers with ⟨_, absent⟩ | ⟨boot, _, heldBoot, _⟩
      · exact ⟨rootId, parsedRoot, .inr ⟨shared, absent, rootOption⟩⟩
      · rw [noBoot] at heldBoot
        contradiction

end BootsFrom

theorem bootsAlike_of_bootsFrom (planned : context.table = some table)
    (boots : table.BootsFrom index partition filesystem) :
    BootsAlike surroundings context table index partition filesystem where
  core := by
    intro fields documented
    obtain ⟨options, made, number, type, path⟩ :=
      renderGrubCore_of_bootsFrom planned boots documented
    refine ⟨StageType.grubCore.stage options, ?_, number, type, ?_⟩
    · rw [result_renderStage, render_of_ne_copy (by simp)]
      simp only [StageType.renderOptions, Outcome.result_bind, Outcome.result_pure, made,
        Except.ok_bind]
    · rcases boots.grubDirectory with ⟨mounted, directory⟩ | ⟨unmounted, directory⟩
      · rw [directory] at path
        exact .inl ⟨mounted, path⟩
      · rw [directory] at path
        exact .inr ⟨unmounted, path⟩
  loader := by
    intro fields documented
    obtain ⟨options, made, location⟩ := renderZipl_of_bootsFrom planned boots documented
    refine ⟨StageType.zipl.stage options, ?_, location⟩
    rw [result_renderStage, render_of_ne_copy (by simp)]
    simp only [StageType.renderOptions, Outcome.result_bind, Outcome.result_lift,
      Outcome.result_pure, made, Except.ok_bind]
  configuration := by
    intro fields stage rendered
    rw [result_renderStage, render_of_ne_copy (by simp)] at rendered
    simp only [StageType.renderOptions, Outcome.result_bind, Outcome.result_lift,
      Outcome.result_pure, Except.bind_eq_ok_iff, Except.ok.injEq] at rendered
    obtain ⟨options, rendered, rfl⟩ := rendered
    obtain ⟨_, parsed, identified⟩ := renderGrub_of_bootsFrom planned boots rendered
    obtain ⟨id, number, spelled, read, rfl⟩ := Identifier.parse_ok_iff.mp parsed
    refine ⟨id, number, spelled, read, ?_⟩
    simpa only [Stage.option?, StageType.stage, Document.reach?_field] using identified

theorem lacksBoot_of_not_bootsFrom (typed : context.WellTyped)
    (planned : context.table = some table)
    (none : ∀ index partition filesystem, ¬ table.BootsFrom index partition filesystem) :
    LacksBoot surroundings context := by
  obtain ⟨unmounted, unmountedRoot⟩ := PartitionTable.unmounted_of_not_bootsFrom none
  refine ⟨?_, ?_, ?_⟩
  · intro fields documented
    rw [result_renderStage, render_error_iff typed documented]
    exact .bootPartition (.inl rfl) planned unmounted unmountedRoot
  · intro fields documented
    rw [result_renderStage, render_error_iff typed documented]
    exact .bootPartition (.inr rfl) planned unmounted unmountedRoot
  · intro fields documented
    rw [result_renderStage, render_error_iff typed documented]
    exact .rootPartition (.inl rfl) planned unmountedRoot

/-- All boot loader stages agree on the boot partition of a table, or on there being none. -/
theorem bootLoaders_agree (surroundings : Surroundings) (typed : context.WellTyped)
    (planned : context.table = some table) :
    (∀ index partition filesystem, table.BootsFrom index partition filesystem →
      BootsAlike surroundings context table index partition filesystem) ∧
    ((∀ index partition filesystem, ¬ table.BootsFrom index partition filesystem) →
      LacksBoot surroundings context) :=
  ⟨fun _ _ _ boots => bootsAlike_of_bootsFrom planned boots,
    lacksBoot_of_not_bootsFrom typed planned⟩

/-- A table that lists the root before the partition of the boot files, and one without a
filesystem between them. -/
def bootLast : PartitionTable where
  type := .text "gpt"
  uuid := .text ""
  partitions := [
    ⟨2048, 4096, .text "", false, .text "", some ⟨.text "xfs", .text "root", .text "/", .null⟩⟩,
    ⟨6144, 2048, .text "", true, .text "", none⟩,
    ⟨8192, 512, .text "", false, .text "",
      some ⟨.text "ext4", .text "boot", .text "/boot", .null⟩⟩]

theorem bootLast_wellTyped : bootLast.WellTyped := by
  refine ⟨⟨_, rfl⟩, ⟨_, rfl⟩, ?_⟩
  intro partition member
  simp only [bootLast, List.mem_cons, List.not_mem_nil, or_false] at member
  rcases member with rfl | rfl | rfl <;> refine ⟨⟨_, rfl⟩, ⟨_, rfl⟩, ?_⟩ <;> rintro _ ⟨⟩
  · exact ⟨⟨_, rfl⟩, ⟨_, rfl⟩, ⟨_, rfl⟩, .inl rfl⟩
  · exact ⟨⟨_, rfl⟩, ⟨_, rfl⟩, ⟨_, rfl⟩, .inl rfl⟩

theorem bootLast_bootsFrom : bootLast.BootsFrom 2
    ⟨8192, 512, .text "", false, .text "",
      some ⟨.text "ext4", .text "boot", .text "/boot", .null⟩⟩
    ⟨.text "ext4", .text "boot", .text "/boot", .null⟩ := by
  refine .dedicated ⟨rfl, rfl, rfl, ?_⟩
  intro earlier other before stands
  have cases : earlier = 0 ∨ earlier = 1 := by omega
  rcases cases with rfl | rfl <;> obtain rfl := Option.some.inj stands <;>
    simp [Partition.mountpoint]

theorem zipl_documented (table : PartitionTable) :
    Documented (plainContext table) ⟨.zipl, [(.text "kernel", .text "5.14")]⟩ where
  required := by simp [Parameters.HasRequired, Parameters.required, Parameters.HasText,
    Parameters.find?, Fields.find?]
  optional := by simp [StageType.optional]
  table := fun _ => ⟨table, rfl⟩
  firewall := by simp

/-- The last partition is the boot partition for the loader, and a table without a place
for the boot files leaves it without one. -/
theorem bootLoaders_agree_bootLast :
    (∃ stage, (renderStage ⟨.builtin, "salt", "token"⟩ (plainContext bootLast)
        "org.osbuild.zipl.inst" [(.text "kernel", .text "5.14")]).result = .ok stage ∧
      stage.option? ["location"] = some (.int 8192)) ∧
    (renderStage ⟨.builtin, "salt", "token"⟩ (plainContext (onlyMounted "/home" "home"))
        "org.osbuild.zipl.inst" [(.text "kernel", .text "5.14")]).result =
      .error (.invariant (.missingPartition (.text "org.osbuild.zipl.inst") (.text "/boot"))) := by
  have typed := wellTyped_plainContext bootLast_wellTyped
  have alike := (bootLoaders_agree ⟨.builtin, "salt", "token"⟩ typed rfl).1 _ _ _
    bootLast_bootsFrom
  have lacks := (bootLoaders_agree ⟨.builtin, "salt", "token"⟩
    (plainContext_wellTyped "/home" "home") rfl).2 (by
      intro index partition filesystem boots
      have found := boots.bootIndex?
      simp [PartitionTable.bootIndex?, PartitionTable.find?, onlyMounted, bootMountpoint,
        rootMountpoint, Partition.mountpoint, Document.same, Scalar.same] at found)
  exact ⟨alike.loader _ (zipl_documented _), lacks.loader _ (zipl_documented _)⟩

end Catalog

end ImageStages
