import ImageStages.Proofs.Catalog.Batch
import ImageStages.Proofs.Catalog.Validation
import ImageStages.Proofs.Stage.MadeOf

namespace ImageStages

section Given

variable (kept : Scalar → Prop)

structure Customizations.MadeOf (customizations : Customizations) : Prop where
  users : ∀ user ∈ customizations.users, user.MadeOf kept
  groups : ∀ group ∈ customizations.groups, group.MadeOf kept
  firewall : ∀ firewall, customizations.firewall = some firewall → firewall.MadeOf kept
  services : ∀ services, customizations.services = some services → services.MadeOf kept

structure Context.MadeOf (context : Context) : Prop where
  arch : context.arch.MadeOf kept
  table : ∀ table, context.table = some table → table.MadeOf kept
  customizations : context.customizations.MadeOf kept
  repositories : ∀ repository ∈ context.repositories, repository.gpgkey.MadeOf kept

/-- The file of the device that a copy is given is made of what is kept. -/
def Parameters.BackedBy (parameters : Parameters) : Prop :=
  ∀ device filename, StageType.imageDevice parameters = .ok device →
    Layout.backingFile device = .ok filename → filename.MadeOf kept

end Given

namespace Catalog

variable {kept : Scalar → Prop} [Scalar.Common kept]
  {surroundings : Surroundings} {context : Context} {type : StageType}
  {table : PartitionTable} {fields options : Fields} {stage : Stage} {requests : List Fields}
  {stages : List Stage} {device : Document}

theorem tableFor_ok (planned : type.tableFor context = .ok table) :
    context.table = some table := by
  unfold StageType.tableFor at planned
  split at planned
  · rename_i found
    rw [found, Except.ok.inj planned]
  · cases planned

theorem renderCopy_madeOf (given : context.MadeOf kept)
    (backed : Parameters.BackedBy kept ⟨.copy, fields⟩)
    (rendered : (StageType.renderCopy context ⟨.copy, fields⟩).result = .ok stage) :
    stage.toDocument.MadeOf kept := by
  simp only [StageType.renderCopy, Outcome.result_bind, Outcome.result_lift,
    Except.bind_eq_ok_iff] at rendered
  obtain ⟨table, planned, device, made, inputName, _, pipeline, _, copied⟩ := rendered
  exact Layout.copyStage_madeOf (given.table table (tableFor_ok planned))
    (fun filename => backed device filename made) copied

theorem renderKickstart_madeOf {parameters : Parameters}
    (rendered : StageType.renderKickstart surroundings parameters = .ok options) :
    (Document.object options).MadeOf kept := by
  simp only [StageType.renderKickstart] at rendered
  split at rendered
  · cases rendered
  · split at rendered
    · simp only [Except.bind_eq_ok_iff, Except.pure_eq_ok, Except.ok.injEq] at rendered
      obtain ⟨url, _, ref, _, rfl⟩ := rendered
      exact Installer.commitKickstart_madeOf (Document.madeOf_text url)
        (Document.madeOf_text ref)
    · simp only [Except.bind_eq_ok_iff, Except.pure_eq_ok, Except.ok.injEq] at rendered
      obtain ⟨url, _, rfl⟩ := rendered
      exact Installer.tarKickstart_madeOf (Document.madeOf_text url)

theorem rootIdentifier_madeOf {parameters : Parameters} {id : Document}
    (given : context.MadeOf kept)
    (identified : StageType.rootIdentifier context parameters = .ok id) : id.MadeOf kept := by
  simp only [StageType.rootIdentifier, Except.bind_eq_ok_iff] at identified
  obtain ⟨asked, _, identified⟩ := identified
  cases asked with
  | some text =>
      obtain rfl := Except.ok.inj identified
      exact Document.madeOf_text text
  | none =>
      simp only [Except.bind_eq_ok_iff] at identified
      obtain ⟨table, planned, identified⟩ := identified
      split at identified
      · rename_i filesystem held
        obtain rfl := Except.ok.inj identified
        obtain ⟨before, partition, after, order, stored, _⟩ :=
          PartitionTable.filesystemOf_at?_eq_some_iff.mp held
        have partitions := (given.table table (tableFor_ok planned)).partitions
        exact ((partitions partition (by simp [order])).filesystem filesystem stored).uuid
      · cases identified

theorem readBranding_madeOf {parameters : Parameters} {branding : Medium.Branding}
    (read : StageType.readBranding parameters = .ok branding) : branding.MadeOf kept := by
  simp only [StageType.readBranding, Except.bind_eq_ok_iff, Except.pure_eq_ok,
    Except.ok.injEq] at read
  obtain ⟨vendor, _, product, _, version, _, label, _, rfl⟩ := read
  exact ⟨Document.madeOf_text _, Document.madeOf_text _, Document.madeOf_text _,
    Document.madeOf_text _⟩

theorem writeText_madeOfIfSet (value : Option Text) :
    (writeSection Document.text value).MadeOfIfSet kept := by
  cases value with
  | none => exact Document.madeOfIfSet_null
  | some text => exact (Document.madeOf_text text).ifSet

theorem renderOptions_madeOf (given : context.MadeOf kept) (plain : type ≠ .copy)
    (rendered : (type.renderOptions surroundings context ⟨type, fields⟩).result = .ok options) :
    (Document.object options).MadeOf kept := by
  have customized := given.customizations
  have text (value : Text) : (Document.text value).MadeOf kept := Document.madeOf_text value
  cases type with
  | copy => contradiction
  | kickstart =>
      exact renderKickstart_madeOf (by simpa [StageType.renderOptions] using rendered)
  | installerModules =>
      obtain rfl := Except.ok.inj rendered
      exact Installer.moduleOptions_madeOf
  | efiDirectory =>
      obtain rfl := Except.ok.inj rendered
      exact Deployment.efiDirectoryOptions_madeOf
  | installerTemplate =>
      obtain rfl := Except.ok.inj rendered
      exact Installer.templateOptions_madeOf given.arch
  | packages =>
      obtain rfl := Except.ok.inj rendered
      exact Deployment.packageOptions_madeOf given.repositories
  | groups =>
      exact Account.groupsOptions_madeOf customized.groups
        (by simpa [StageType.renderOptions] using rendered)
  | firewall =>
      simp only [StageType.renderOptions, StageType.renderFirewall, Outcome.result_lift]
        at rendered
      split at rendered
      · rename_i custom present
        obtain rfl := Except.ok.inj rendered
        exact Deployment.firewallOptions_madeOf (customized.firewall custom present)
      · cases rendered
  | partitionTable =>
      simp only [StageType.renderOptions, StageType.renderTable, Outcome.result_lift,
        Except.bind_eq_ok_iff, Except.pure_eq_ok, Except.ok.injEq] at rendered
      obtain ⟨table, planned, rfl⟩ := rendered
      exact Layout.describeTable_madeOf (given.table table (tableFor_ok planned))
  | firstBoot =>
      simp only [StageType.renderOptions, StageType.renderFirstBoot, Account.firstBootOptions,
        Outcome.result_bind, Outcome.result_lift_mishap, Except.bind_eq_ok_iff,
        Except.mapError_eq_ok_iff, Except.pure_eq_ok, Except.ok.injEq] at rendered
      obtain ⟨_, _, commands, _, rfl⟩ := rendered
      simp [Document.madeOf_options_iff]
  | users =>
      simp only [StageType.renderOptions, StageType.renderUsers, Outcome.result_bind,
        Outcome.result_pure, Except.bind_eq_ok_iff, Except.ok.injEq] at rendered
      obtain ⟨records, recorded, rfl⟩ := rendered
      have users := Account.userRecords_madeOf customized.users recorded
      simpa [Account.usersOptions, Document.madeOf_options_iff] using users
  | grub =>
      simp only [StageType.renderOptions, StageType.renderGrub, Outcome.result_lift,
        Except.bind_eq_ok_iff] at rendered
      obtain ⟨_, _, _, _, _, _, _, _, _, _, _, _, _, _, made⟩ := rendered
      exact Boot.grubOptions_madeOf (text _) (text _) (text _) (Document.madeOf_bool _) made
  | grubCore =>
      simp only [StageType.renderOptions, StageType.renderGrubCore, Outcome.result_bind,
        Outcome.result_lift, Except.bind_eq_ok_iff] at rendered
      obtain ⟨_, _, table, planned, _, _, made⟩ := rendered
      exact Boot.grubCoreOptions_madeOf (given.table table (tableFor_ok planned)) (text _)
        (text _) made
  | zipl =>
      simp only [StageType.renderOptions, StageType.renderZipl, Outcome.result_lift,
        Except.bind_eq_ok_iff] at rendered
      obtain ⟨_, _, table, planned, made⟩ := rendered
      exact Boot.ziplOptions_madeOf (given.table table (tableFor_ok planned)) (text _) made
  | kernelCommandLine =>
      simp only [StageType.renderOptions, StageType.renderCommandLine, Outcome.result_lift,
        Except.bind_eq_ok_iff, Except.pure_eq_ok, Except.ok.injEq] at rendered
      obtain ⟨rootId, identified, _, _, rfl⟩ := rendered
      exact Boot.commandLineOptions_madeOf (rootIdentifier_madeOf given identified)
        (text _)
  | installerMedium =>
      simp only [StageType.renderOptions, StageType.renderInstallerMedium, Outcome.result_bind,
        Outcome.result_lift, Except.bind_eq_ok_iff] at rendered
      obtain ⟨_, _, branding, read, made⟩ := rendered
      exact Medium.installerOptions_madeOf (text _) (readBranding_madeOf read) made
  | liveMedium =>
      simp only [StageType.renderOptions, StageType.renderLiveMedium, Outcome.result_lift,
        Except.bind_eq_ok_iff] at rendered
      obtain ⟨_, _, _, _, branding, read, made⟩ := rendered
      exact Medium.liveOptions_madeOf (readBranding_madeOf read) made
  | discinfo =>
      simp only [StageType.renderOptions, StageType.renderDiscinfo, Outcome.result_lift,
        Except.bind_eq_ok_iff, Except.pure_eq_ok, Except.ok.injEq] at rendered
      obtain ⟨release, _, rfl⟩ := rendered
      exact Medium.discinfoOptions_madeOf given.arch
        (writeText_madeOfIfSet _)
  | mediumAssembly =>
      simp only [StageType.renderOptions, StageType.renderAssembly, Outcome.result_lift,
        Except.bind_eq_ok_iff] at rendered
      obtain ⟨_, _, _, _, _, _, _, _, made⟩ := rendered
      exact Medium.assemblyOptions_madeOf (text _) made
  | diskFormat =>
      simp only [StageType.renderOptions, StageType.renderDiskFormat, Outcome.result_lift,
        Except.bind_eq_ok_iff] at rendered
      obtain ⟨_, _, _, _, _, _, made⟩ := rendered
      exact Medium.conversionOptions_madeOf (text _) (text _) (text _) made
  | buildstamp =>
      simp only [StageType.renderOptions, StageType.renderBuildstamp, Outcome.result_lift,
        Except.bind_eq_ok_iff, Except.pure_eq_ok, Except.ok.injEq] at rendered
      obtain ⟨_, _, _, _, _, _, rfl⟩ := rendered
      exact Installer.buildstampOptions_madeOf given.arch (text _) (text _) (text _)
  | initialModules =>
      simp only [StageType.renderOptions, StageType.renderInitialModules, Outcome.result_bind,
        Outcome.result_lift, Except.bind_eq_ok_iff] at rendered
      obtain ⟨_, _, _, _, made⟩ := rendered
      exact Installer.initialOptions_madeOf (text _) made
  | fileMode =>
      simp only [StageType.renderOptions, StageType.renderFileMode, Outcome.result_lift,
        Outcome.lift_mishap, Except.bind_eq_ok_iff, Except.mapError_eq_ok_iff] at rendered
      obtain ⟨_, _, _, _, _, _, made⟩ := rendered
      exact Deployment.modeOptions_madeOf (text _) (Document.madeOf_bool _) made
  | webServer =>
      simp only [StageType.renderOptions, StageType.renderWebServer, Outcome.result_lift,
        Except.bind_eq_ok_iff, Except.pure_eq_ok, Except.ok.injEq] at rendered
      obtain ⟨_, _, _, _, _, _, rfl⟩ := rendered
      exact Deployment.webServerOptions_madeOf (text _) (text _) (text _)
  | tree =>
      simp only [StageType.renderOptions, StageType.renderTree, Outcome.result_lift,
        Except.bind_eq_ok_iff, Except.pure_eq_ok, Except.ok.injEq] at rendered
      obtain ⟨_, _, _, _, rfl⟩ := rendered
      exact Deployment.treeOptions_madeOf (text _) (Document.madeOf_bool _)
  | relabel =>
      simp only [StageType.renderOptions, StageType.renderRelabel, Outcome.result_lift,
        Except.bind_eq_ok_iff, Except.pure_eq_ok, Except.ok.injEq] at rendered
      obtain ⟨_, _, rfl⟩ := rendered
      exact Deployment.relabelOptions_madeOf
  | services =>
      simp only [StageType.renderOptions, StageType.renderServices, Outcome.result_lift,
        Outcome.lift_mishap, Except.bind_eq_ok_iff, Except.mapError_eq_ok_iff] at rendered
      obtain ⟨_, _, _, _, target, _, made⟩ := rendered
      exact Deployment.serviceOptions_madeOf
        (writeText_madeOfIfSet _) customized.services
        made

theorem render_madeOf (given : context.MadeOf kept)
    (backed : type = .copy → Parameters.BackedBy kept ⟨.copy, fields⟩)
    (rendered : (type.render surroundings context fields).result = .ok stage) :
    stage.toDocument.MadeOf kept := by
  by_cases copy : type = .copy
  · subst copy
    exact renderCopy_madeOf given (backed rfl) rendered
  · rw [render_of_ne_copy copy] at rendered
    simp only [Outcome.result_bind, Outcome.result_pure, Except.bind_eq_ok_iff,
      Except.ok.injEq] at rendered
    obtain ⟨options, rendered, rfl⟩ := rendered
    have options := renderOptions_madeOf given copy rendered
    simpa [StageType.stage, Stage.toDocument] using options

/-- The stages of a batch are made of what its context and the devices of its copies give. -/
theorem renderBatch_madeOf (given : context.MadeOf kept)
    (backed : ∀ request ∈ requests, typeName request = .ok StageType.copy.name →
      ∀ fields, parametersOf StageType.copy.name request = .ok fields →
        Parameters.BackedBy kept ⟨.copy, fields⟩)
    (rendered : (renderBatch surroundings context requests).result = .ok stages) :
    ∀ stage ∈ stages, stage.toDocument.MadeOf kept := by
  intro stage member
  obtain ⟨request, present, alone⟩ :=
    exists_related (renderBatch_ok_iff.mp rendered).flip member
  obtain ⟨type, fields, named, read, built⟩ := renderRequest_ok (rendersAlone_iff.mp alone)
  refine render_madeOf given ?_ built
  rintro rfl
  exact backed request present named fields read

end Catalog

end ImageStages
