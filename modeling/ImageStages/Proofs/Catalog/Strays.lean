import ImageStages.Proofs.Boot.Loader
import ImageStages.Proofs.Account.Provision
import ImageStages.Proofs.Catalog.Batch
import ImageStages.Proofs.Catalog.Documented
import ImageStages.Proofs.Layout.Plan
import ImageStages.Proofs.Medium.Supported

namespace ImageStages.Catalog

/-! Which requests leave the error boundary.

A failure should be invalid input or a violated invariant.  The values of a context are not
checked when a request is read, so that a stage can trip over one of them. -/

variable {surroundings : Surroundings} {context : Context} {parameters : Parameters}
  {fields request : Fields} {requests : List Fields} {type : StageType}

def TakesDevice (parameters : Parameters) : Prop :=
  ∀ value, parameters.given? "device" = some value →
    ∃ device, value = .object device ∧ Layout.IsLoopback device ∧ Layout.HasPlainOptions device

/-- What a stage trips over once its parameters have been read. -/
inductive StageStrays (context : Context) (parameters : Parameters) : Prop where
  | medium (stage : parameters.stage = .installerMedium ∨ parameters.stage = .liveMedium)
      (reads : parameters.HasRequired) (compound : ¬ context.arch.IsScalar)
  | initialModules (stage : parameters.stage = .initialModules)
      (reads : parameters.HasRequired) (additional : parameters.Takes "additional_modules" .texts)
      (compound : ¬ context.arch.IsScalar)
  | assembly (stage : parameters.stage = .mediumAssembly) (reads : parameters.HasRequired)
      (compound : ¬ context.arch.IsScalar)
  | label {label : Text} {cause : Mishap} (stage : parameters.stage = .mediumAssembly)
      (reads : parameters.HasRequired) (legacy : parameters.Takes "isolinux" .flag)
      (scalar : context.arch.IsScalar) (given : parameters.find? "isolabel" = some (.text label))
      (failed : Template.fill label context.arch = .error (.mishap cause))
      (kind : cause.family ≠ .kind) (value : cause.family ≠ .value)
  | device {device : Fields} (stage : parameters.stage = .copy)
      (planned : context.table.isSome) (reads : parameters.HasRequired)
      (inputName : parameters.Takes "input_name" .text)
      (given : parameters.given? "device" = some (.object device))
      (loopback : Layout.IsLoopback device) (bare : ¬ Layout.HasPlainOptions device)
  | table {table : PartitionTable} (stage : parameters.stage = .copy)
      (planned : context.table = some table) (reads : parameters.HasRequired)
      (inputName : parameters.Takes "input_name" .text) (device : TakesDevice parameters)
      (trips : Layout.TableTrips table)
  | users (stage : parameters.stage = .users ∨ parameters.stage = .firstBoot)
      (trips : Account.UserTrips context.customizations.users)
  | keys (stage : parameters.stage = .firstBoot)
      (provisionable : ∀ user ∈ context.customizations.users, Account.Provisionable user)
      (trips : Account.KeyTrips context.customizations.users)
  | groups {group : Group} (stage : parameters.stage = .groups)
      (member : group ∈ context.customizations.groups) (compound : ¬ group.name.IsScalar)

section StageStrays

def straying : List StageType := [
  .installerMedium, .liveMedium, .initialModules, .mediumAssembly, .copy, .users, .firstBoot,
  .groups]

theorem StageStrays.mem_straying (strays : StageStrays context parameters) :
    parameters.stage ∈ straying := by
  cases strays with
  | initialModules stage | assembly stage | label stage | device stage | table stage
  | keys stage | groups stage => simp [stage, straying]
  | medium stage | users stage => rcases stage with stage | stage <;> simp [stage, straying]

theorem strays_medium_iff
    (stage : parameters.stage = .installerMedium ∨ parameters.stage = .liveMedium) :
    StageStrays context parameters ↔ parameters.HasRequired ∧ ¬ context.arch.IsScalar := by
  constructor
  · intro strays
    cases strays with
    | medium _ reads compound => exact ⟨reads, compound⟩
    | _ => rcases stage with stage | stage <;> simp_all
  · intro tripped
    obtain ⟨reads, compound⟩ := tripped
    exact .medium stage reads compound

end StageStrays

section Renderers

theorem installerMedium_strays_iff :
    Strays (StageType.renderInstallerMedium surroundings context
        ⟨.installerMedium, fields⟩).result ↔
      StageStrays context ⟨.installerMedium, fields⟩ := by
  rw [strays_medium_iff (.inl rfl)]
  simp [StageType.renderInstallerMedium, StageType.readBranding, Parameters.text_ok_iff,
    Medium.installerOptions_strays_iff, Parameters.HasRequired, Parameters.required,
    Parameters.HasText, and_assoc]

theorem liveMedium_strays_iff :
    Strays (StageType.renderLiveMedium surroundings context ⟨.liveMedium, fields⟩) ↔
      StageStrays context ⟨.liveMedium, fields⟩ := by
  rw [strays_medium_iff (.inr rfl)]
  simp [StageType.renderLiveMedium, StageType.readBranding, Parameters.text_ok_iff,
    Medium.liveOptions_strays_iff, Parameters.HasRequired, Parameters.required,
    Parameters.HasText, and_assoc]

theorem initialModules_strays_iff :
    Strays (StageType.renderInitialModules context ⟨.initialModules, fields⟩).result ↔
      StageStrays context ⟨.initialModules, fields⟩ := by
  have strays : StageStrays context ⟨.initialModules, fields⟩ ↔
      Parameters.HasText ⟨.initialModules, fields⟩ "kernel_version" ∧
        Parameters.Takes ⟨.initialModules, fields⟩ "additional_modules" .texts ∧
        ¬ context.arch.IsScalar := by
    constructor
    · intro strays
      cases strays with
      | initialModules _ reads additional compound =>
          exact ⟨reads _ (by simp [Parameters.required]), additional, compound⟩
      | _ => simp_all
    · intro tripped
      obtain ⟨kernelVersion, additional, compound⟩ := tripped
      exact .initialModules rfl (by simpa [Parameters.HasRequired, Parameters.required])
        additional compound
  rw [strays, ← Parameters.texts_succeeds_iff, ← Parameters.text_succeeds_iff]
  simp [StageType.renderInitialModules, Installer.initialOptions_strays_iff]

theorem strays_assembly_iff :
    StageStrays context ⟨.mediumAssembly, fields⟩ ↔
      Parameters.HasText ⟨.mediumAssembly, fields⟩ "filename" ∧
      ∃ label, (Parameters.mk .mediumAssembly fields).find? "isolabel" = some (.text label) ∧
        (¬ context.arch.IsScalar ∨
          (context.arch.IsScalar ∧ Parameters.Takes ⟨.mediumAssembly, fields⟩ "isolinux" .flag ∧
            ∃ cause, Template.fill label context.arch = .error (.mishap cause) ∧
              cause.family ≠ .kind ∧ cause.family ≠ .value)) := by
  have reads : Parameters.HasRequired ⟨.mediumAssembly, fields⟩ ↔
      Parameters.HasText ⟨.mediumAssembly, fields⟩ "filename" ∧
        Parameters.HasText ⟨.mediumAssembly, fields⟩ "isolabel" := by
    simp [Parameters.HasRequired, Parameters.required]
  constructor
  · intro strays
    cases strays with
    | assembly _ required compound =>
        obtain ⟨filename, label, given⟩ := reads.mp required
        exact ⟨filename, label, given, .inl compound⟩
    | @label label cause _ required legacy scalar given failed kind value =>
        exact ⟨(reads.mp required).1, label, given,
          .inr ⟨scalar, legacy, cause, failed, kind, value⟩⟩
    | _ => simp_all
  · intro tripped
    obtain ⟨filename, label, given, tripped⟩ := tripped
    rcases tripped with compound | ⟨scalar, legacy, cause, failed, kind, value⟩
    · exact .assembly rfl (reads.mpr ⟨filename, label, given⟩) compound
    · exact .label rfl (reads.mpr ⟨filename, label, given⟩) legacy scalar given failed kind value

theorem mediumAssembly_strays_iff :
    Strays (StageType.renderAssembly context ⟨.mediumAssembly, fields⟩) ↔
      StageStrays context ⟨.mediumAssembly, fields⟩ := by
  rw [strays_assembly_iff]
  by_cases scalar : context.arch.IsScalar
  · obtain ⟨customary, known⟩ := Medium.hasLegacyLoader_succeeds scalar
    rw [← Parameters.flagOr_succeeds_iff customary]
    simp [StageType.renderAssembly, known, scalar, Parameters.text_ok_iff, Parameters.HasText,
      Medium.assemblyOptions_strays_iff]
  · simp [StageType.renderAssembly, scalar, Parameters.text_ok_iff, Parameters.HasText]

theorem hasRequired_copy_iff :
    Parameters.HasRequired ⟨.copy, fields⟩ ↔
      Parameters.HasText ⟨.copy, fields⟩ "pipeline" ∧
        ((Parameters.mk .copy fields).given? "device" = none →
          Parameters.HasText ⟨.copy, fields⟩ "filename") := by
  cases given : (Parameters.mk .copy fields).given? "device" <;>
    simp [Parameters.HasRequired, Parameters.required, given, and_comm]

theorem imageDevice_bare_iff :
    (∃ device, StageType.imageDevice parameters = .ok (.object device) ∧
        Layout.IsLoopback device ∧ ¬ Layout.HasPlainOptions device) ↔
      ∃ device, parameters.given? "device" = some (.object device) ∧
        Layout.IsLoopback device ∧ ¬ Layout.HasPlainOptions device := by
  constructor
  · intro holds
    obtain ⟨device, made, loopback, bare⟩ := holds
    rcases Parameters.imageDevice_ok_iff.mp made with ⟨_, given, same⟩ | ⟨_, filename, _, same⟩
    · obtain rfl := Document.object.inj same
      exact ⟨device, given, loopback, bare⟩
    · obtain ⟨other, spelled, _, plain⟩ :=
        Layout.loopback_isLoopback (.text filename) (.int 0) (.int 0)
      obtain rfl := Document.object.inj (same.trans spelled)
      exact absurd plain bare
  · intro known
    obtain ⟨device, given, loopback, bare⟩ := known
    exact ⟨device, Parameters.imageDevice_ok_iff.mpr (.inl ⟨device, given, rfl⟩), loopback, bare⟩

theorem imageDevice_plain_iff :
    (∃ device, StageType.imageDevice parameters = .ok (.object device) ∧
        Layout.IsLoopback device ∧ Layout.HasPlainOptions device) ↔
      TakesDevice parameters ∧
        (parameters.given? "device" = none → parameters.HasText "filename") := by
  cases given : parameters.given? "device" with
  | some value =>
      simp only [Parameters.imageDevice_ok_iff, TakesDevice, given]
      constructor
      · intro holds
        obtain ⟨device, ⟨_, found, same⟩ | ⟨absent, _⟩, loopback, plain⟩ := holds
        · obtain rfl := Document.object.inj same
          obtain rfl := Option.some.inj found
          simp [loopback, plain]
        · contradiction
      · intro known
        obtain ⟨takes, _⟩ := known
        obtain ⟨device, rfl, loopback, plain⟩ := takes value rfl
        exact ⟨device, .inl ⟨device, rfl, rfl⟩, loopback, plain⟩
  | none =>
      simp only [Parameters.imageDevice_ok_iff, TakesDevice, given]
      constructor
      · intro facts
        obtain ⟨_, ⟨_, found, _⟩ | ⟨_, filename, found, _⟩, _⟩ := facts
        · contradiction
        · exact ⟨by simp, fun _ => ⟨filename, found⟩⟩
      · intro premise
        obtain ⟨_, present⟩ := premise
        obtain ⟨filename, found⟩ := present trivial
        obtain ⟨device, made, loopback, plain⟩ :=
          Layout.loopback_isLoopback (.text filename) (.int 0) (.int 0)
        exact ⟨device, .inr ⟨trivial, filename, found, made.symm⟩, loopback, plain⟩

theorem strays_copy_iff :
    StageStrays context ⟨.copy, fields⟩ ↔
      ∃ table, context.table = some table ∧
        Parameters.HasText ⟨.copy, fields⟩ "pipeline" ∧
        Parameters.Takes ⟨.copy, fields⟩ "input_name" .text ∧
        ∃ device, StageType.imageDevice ⟨.copy, fields⟩ = .ok (.object device) ∧
          Layout.IsLoopback device ∧
          (¬ Layout.HasPlainOptions device ∨
            (Layout.HasPlainOptions device ∧ Layout.TableTrips table)) := by
  constructor
  · intro strays
    cases strays with
    | @device device _ planned reads inputName given loopback bare =>
        obtain ⟨table, planned⟩ := Option.isSome_iff_exists.mp planned
        obtain ⟨device, made, loopback, bare⟩ :=
          imageDevice_bare_iff.mpr ⟨device, given, loopback, bare⟩
        exact ⟨table, planned, (hasRequired_copy_iff.mp reads).1, inputName, device, made,
          loopback, .inl bare⟩
    | @table table _ planned reads inputName takes trips =>
        obtain ⟨pipeline, filename⟩ := hasRequired_copy_iff.mp reads
        obtain ⟨device, made, loopback, plain⟩ := imageDevice_plain_iff.mpr ⟨takes, filename⟩
        exact ⟨table, planned, pipeline, inputName, device, made, loopback,
          .inr ⟨plain, trips⟩⟩
    | _ => simp_all
  · intro tripped
    obtain ⟨table, planned, pipeline, inputName, device, made, loopback, tripped⟩ := tripped
    rcases tripped with bare | ⟨plain, trips⟩
    · obtain ⟨device, given, loopback, bare⟩ :=
        imageDevice_bare_iff.mp ⟨device, made, loopback, bare⟩
      have reads := hasRequired_copy_iff.mpr ⟨pipeline, fun absent => by simp [given] at absent⟩
      exact .device rfl (by simp [planned]) reads inputName given loopback bare
    · obtain ⟨takes, filename⟩ := imageDevice_plain_iff.mp ⟨device, made, loopback, plain⟩
      exact .table rfl planned (hasRequired_copy_iff.mpr ⟨pipeline, filename⟩) inputName takes
        trips

theorem copy_strays_iff :
    Strays (StageType.renderCopy context ⟨.copy, fields⟩).result ↔
      StageStrays context ⟨.copy, fields⟩ := by
  rw [strays_copy_iff]
  cases planned : context.table with
  | none => simp [StageType.renderCopy, StageType.tableFor, planned]
  | some table =>
      simp only [StageType.renderCopy, StageType.tableFor, planned, Outcome.result_bind,
        Outcome.result_lift, Except.ok_bind, failsWith_bind, Parameters.not_strays_imageDevice,
        Parameters.not_strays_textOr, Parameters.not_strays_text, false_or, Option.some.injEq,
        exists_eq_left']
      constructor
      · intro tripped
        obtain ⟨device, made, inputName, read, pipeline, found, strays⟩ := tripped
        obtain ⟨fields, rfl⟩ := Parameters.imageDevice_isObject made
        exact ⟨Parameters.text_succeeds_iff.mp ⟨pipeline, found⟩,
          Parameters.textOr_succeeds_iff.mp ⟨inputName, read⟩, fields, made,
          Layout.copyStage_strays_iff.mp strays⟩
      · intro trips
        obtain ⟨pipeline, inputName, device, made, strays⟩ := trips
        obtain ⟨pipeline, found⟩ := Parameters.text_succeeds_iff.mpr pipeline
        obtain ⟨inputName, read⟩ := Parameters.textOr_succeeds_iff.mpr inputName
        exact ⟨.object device, made, inputName, read, pipeline, found,
          Layout.copyStage_strays_iff.mpr strays⟩

theorem users_strays_iff :
    Strays (StageType.renderUsers surroundings context).result ↔
      StageStrays context ⟨.users, fields⟩ := by
  have strays : StageStrays context ⟨.users, fields⟩ ↔
      Account.UserTrips context.customizations.users := by
    constructor
    · intro strays
      cases strays with
      | users _ trips => exact trips
      | _ => simp_all
    · exact .users (.inl rfl)
  simp [StageType.renderUsers, Account.userRecords_strays_iff, strays]

theorem firstBoot_strays_iff :
    Strays (StageType.renderFirstBoot surroundings context).result ↔
      StageStrays context ⟨.firstBoot, fields⟩ := by
  have strays : StageStrays context ⟨.firstBoot, fields⟩ ↔
      Account.UserTrips context.customizations.users ∨
        ((∀ user ∈ context.customizations.users, Account.Provisionable user) ∧
          Account.KeyTrips context.customizations.users) := by
    constructor
    · intro strays
      cases strays with
      | users _ trips => exact .inl trips
      | keys _ provisionable trips => exact .inr ⟨provisionable, trips⟩
      | _ => simp_all
    · intro tripped
      rcases tripped with trips | ⟨provisionable, trips⟩
      · exact .users (.inr rfl) trips
      · exact .keys rfl provisionable trips
  rw [strays, ← Account.userRecords_strays_iff surroundings.salt,
    ← Account.userRecords_succeeds_iff surroundings.salt]
  cases recorded : (Account.userRecords surroundings.salt context.customizations.users).result with
  | error failure => simp [StageType.renderFirstBoot, recorded]
  | ok records =>
      simp [StageType.renderFirstBoot, recorded, Account.firstBootOptions_trips_iff recorded]

theorem groups_strays_iff :
    Strays (Account.groupsOptions context.customizations.groups) ↔
      StageStrays context ⟨.groups, fields⟩ := by
  rw [Account.groupsOptions_strays_iff]
  constructor
  · intro tripped
    obtain ⟨group, member, compound⟩ := tripped
    exact .groups rfl member compound
  · intro strays
    cases strays with
    | @groups group _ member compound => exact ⟨group, member, compound⟩
    | _ => simp_all

end Renderers

section Safe

@[simp] theorem not_strays_tableFor : ¬ Strays (type.tableFor context) := by
  cases planned : context.table <;> simp [StageType.tableFor, planned]

@[simp] theorem not_strays_rootIdentifier :
    ¬ Strays (StageType.rootIdentifier context parameters) := by
  simp only [StageType.rootIdentifier, failsWith_bind, Parameters.not_strays_text?, false_or,
    not_exists, not_and]
  intro given _
  cases given with
  | some id => exact not_failsWith_ok _
  | none =>
      simp only [failsWith_bind, not_strays_tableFor, false_or, not_exists, not_and]
      intro table _
      cases held : Boot.filesystemOf table.root? <;> simp

theorem not_strays_kickstart :
    ¬ Strays (StageType.renderKickstart surroundings parameters) := by
  unfold StageType.renderKickstart
  simp only
  split
  · simp
  · split <;> simp

/-- Every other stage keeps to the error boundary, whatever it is rendered from. -/
theorem not_strays_renderOptions (safe : type ∉ straying) :
    ¬ Strays (type.renderOptions surroundings context ⟨type, fields⟩).result := by
  cases type with
  | installerModules | installerTemplate | efiDirectory | packages =>
      exact not_failsWith_ok _
  | buildstamp => simp [StageType.renderOptions, StageType.renderBuildstamp]
  | fileMode =>
      simp [StageType.renderOptions, StageType.renderFileMode, Deployment.modeOptions]
  | discinfo => simp [StageType.renderOptions, StageType.renderDiscinfo]
  | firewall =>
      cases custom : context.customizations.firewall <;>
        simp [StageType.renderOptions, StageType.renderFirewall, custom]
  | grub =>
      simp [StageType.renderOptions, StageType.renderGrub, Boot.not_strays_grubOptions]
  | grubCore =>
      simp [StageType.renderOptions, StageType.renderGrubCore, Boot.not_strays_grubCoreOptions]
  | kernelCommandLine => simp [StageType.renderOptions, StageType.renderCommandLine]
  | kickstart => simpa [StageType.renderOptions] using not_strays_kickstart
  | webServer => simp [StageType.renderOptions, StageType.renderWebServer]
  | tree => simp [StageType.renderOptions, StageType.renderTree]
  | diskFormat =>
      simp [StageType.renderOptions, StageType.renderDiskFormat,
        Medium.not_strays_conversionOptions]
  | relabel => simp [StageType.renderOptions, StageType.renderRelabel]
  | partitionTable => simp [StageType.renderOptions, StageType.renderTable]
  | services =>
      simp [StageType.renderOptions, StageType.renderServices, Deployment.serviceOptions,
        Document.items, Document.texts]
  | zipl => simp [StageType.renderOptions, StageType.renderZipl, Boot.not_strays_ziplOptions]
  | _ => simp [straying] at safe

end Safe

theorem renderOptions_strays_iff (plain : type ≠ .copy) :
    Strays (type.renderOptions surroundings context ⟨type, fields⟩).result ↔
      StageStrays context ⟨type, fields⟩ := by
  by_cases safe : type ∈ straying
  · cases type with
    | installerMedium => exact installerMedium_strays_iff
    | liveMedium => exact liveMedium_strays_iff
    | initialModules => exact initialModules_strays_iff
    | mediumAssembly => exact mediumAssembly_strays_iff
    | users => exact users_strays_iff
    | firstBoot => exact firstBoot_strays_iff
    | groups => exact groups_strays_iff
    | copy => contradiction
    | _ => simp [straying] at safe
  · exact iff_of_false (not_strays_renderOptions safe) fun strays => safe strays.mem_straying

/-- A stage strays exactly when it trips over what it was rendered from. -/
theorem render_strays_iff :
    Strays (type.render surroundings context fields).result ↔
      StageStrays context ⟨type, fields⟩ := by
  by_cases copy : type = .copy
  · subst copy
    exact copy_strays_iff
  · rw [render_of_ne_copy copy]
    simpa using renderOptions_strays_iff copy

end ImageStages.Catalog
