import ImageStages.Proofs.Boot.Partition

namespace ImageStages

/-- Of these parameters, a stage asks which are there before it reads any. -/
def StageType.alternatives : StageType → List String
  | .kickstart => ["ostree_url", "tar_url"]
  | _ => []

namespace Parameters

variable {parameters : Parameters} {key : String} {shape : Shape} {value : Document}

/-- The parameters that a stage reads, with their documented types. -/
def reads (parameters : Parameters) : List (String × Shape) :=
  (parameters.stage.alternatives ++ parameters.required).map (·, .text) ++
    parameters.stage.optional

/-- What the stage reads has its documented type, where it is there and not null. -/
def Validated (parameters : Parameters) : Prop :=
  ∀ entry ∈ parameters.reads, ∀ value, parameters.given? entry.1 = some value →
    entry.2.Admits value

/-- The parameter is there and not null, but taken for an empty list, which it is not. -/
def PassedOver (parameters : Parameters) (key : String) : Prop :=
  ∃ value, parameters.given? key = some value ∧ value.given = false ∧ value ≠ .list []

def Checked (parameters : Parameters) : Prop :=
  ∀ entry ∈ parameters.reads, parameters.Takes entry.1 entry.2

theorem checked_iff :
    parameters.Checked ↔
      (∀ key ∈ parameters.stage.alternatives ++ parameters.required,
        parameters.Takes key .text) ∧
      ∀ entry ∈ parameters.stage.optional, parameters.Takes entry.1 entry.2 := by
  simp only [Checked, reads, List.forall_mem_append, List.forall_mem_map]

theorem find?_of_given? (given : parameters.given? key = some value) :
    parameters.find? key = some value :=
  (Option.filter_eq_some_iff.mp given).1

theorem Takes.texts_validated_iff (takes : parameters.Takes key .texts) :
    (∀ value, parameters.given? key = some value → Shape.texts.Admits value) ↔
      ¬ parameters.PassedOver key := by
  constructor
  · rintro validated ⟨value, given, counts, filled⟩
    obtain ⟨items, rfl⟩ := validated value given
    cases items with
    | nil => exact filled rfl
    | cons first rest => cases counts
  · intro none value given
    cases counts : value.given with
    | true => exact takes value (find?_of_given? given) counts
    | false =>
        have empty : value = .list [] := by
          by_contra filled
          exact none ⟨value, given, counts, filled⟩
        exact ⟨[], empty⟩

/-- Only lists of texts are taken without a check. -/
theorem Takes.validated_iff (takes : parameters.Takes key shape) :
    (∀ value, parameters.given? key = some value → shape.Admits value) ↔
      (shape = .texts → ¬ parameters.PassedOver key) := by
  cases shape with
  | texts => simpa using Takes.texts_validated_iff takes
  | text | flag | device => exact iff_of_true takes (by simp)

theorem Checked.validated_iff (checked : parameters.Checked) :
    parameters.Validated ↔
      ∀ key, (key, Shape.texts) ∈ parameters.reads → ¬ parameters.PassedOver key := by
  constructor
  · intro validated key member
    exact (checked _ member).validated_iff.mp (validated _ member) rfl
  · rintro none ⟨key, shape⟩ member
    refine (checked _ member).validated_iff.mpr ?_
    rintro rfl
    exact none key member

section Reading

variable {text : Text} {default : String} {flag whether : Bool} {items : List Text}

theorem takes_of_text (read : parameters.text key = .ok text) : parameters.Takes key .text := by
  intro value given
  have found := text_ok_iff.mp read
  obtain rfl := Option.some.inj (found.symm.trans (find?_of_given? given))
  exact ⟨text, rfl⟩

theorem takes_of_text? {text : Option Text} (read : parameters.text? key = .ok text) :
    parameters.Takes key .text :=
  text?_succeeds_iff.mp ⟨text, read⟩

theorem takes_of_textOr (read : parameters.textOr key default = .ok text) :
    parameters.Takes key .text :=
  textOr_succeeds_iff.mp ⟨text, read⟩

theorem takes_of_flagOr (read : parameters.flagOr key whether = .ok flag) :
    parameters.Takes key .flag :=
  (flagOr_succeeds_iff _).mp ⟨flag, read⟩

theorem takes_of_texts (read : parameters.texts key = .ok items) :
    parameters.Takes key .texts :=
  texts_succeeds_iff.mp ⟨items, read⟩

end Reading

section Agreement

variable {type : StageType} {first second : Fields} {key : String}

/-- The parameters have the same value of this name, if they have one. -/
def AgreeOn (first second : Fields) (key : String) : Prop :=
  Fields.find? second (.text key) = Fields.find? first (.text key)

theorem AgreeOn.find? (agree : AgreeOn first second key) (type : StageType) :
    Parameters.find? ⟨type, second⟩ key = Parameters.find? ⟨type, first⟩ key := agree

theorem AgreeOn.given? (agree : AgreeOn first second key) (type : StageType) :
    Parameters.given? ⟨type, second⟩ key = Parameters.given? ⟨type, first⟩ key := by
  rw [Parameters.given?, agree.find? type, Parameters.given?]

theorem AgreeOn.text (agree : AgreeOn first second key) (type : StageType) :
    Parameters.text ⟨type, second⟩ key = Parameters.text ⟨type, first⟩ key := by
  rw [Parameters.text, agree.find? type]
  rfl

theorem AgreeOn.text? (agree : AgreeOn first second key) (type : StageType) :
    Parameters.text? ⟨type, second⟩ key = Parameters.text? ⟨type, first⟩ key := by
  rw [Parameters.text?, agree.given? type]
  rfl

theorem AgreeOn.textOr (agree : AgreeOn first second key) (type : StageType)
    (default : String) : Parameters.textOr ⟨type, second⟩ key default =
      Parameters.textOr ⟨type, first⟩ key default := by
  rw [Parameters.textOr, agree.text? type, Parameters.textOr]

theorem AgreeOn.flagOr (agree : AgreeOn first second key) (type : StageType)
    (default : Bool) : Parameters.flagOr ⟨type, second⟩ key default =
      Parameters.flagOr ⟨type, first⟩ key default := by
  rw [Parameters.flagOr, agree.given? type]
  rfl

theorem AgreeOn.record? (agree : AgreeOn first second key) (type : StageType) :
    Parameters.record? ⟨type, second⟩ key = Parameters.record? ⟨type, first⟩ key := by
  rw [Parameters.record?, agree.given? type]
  rfl

theorem AgreeOn.texts (agree : AgreeOn first second key) (type : StageType) :
    Parameters.texts ⟨type, second⟩ key = Parameters.texts ⟨type, first⟩ key := by
  rw [Parameters.texts, agree.find? type]
  rfl

end Agreement

/-- What is not there passes for any type. -/
theorem takes_of_absent (absent : parameters.find? key = none) :
    parameters.Takes key .text := by
  intro value given
  rw [find?_of_given? given] at absent
  contradiction

end Parameters

namespace Catalog

open Parameters

variable {surroundings : Surroundings} {context : Context} {type : StageType}
  {first second fields options : Fields} {stage : Stage}

section Takes

-- What a stage has checked is told by the lists of what it reads.
attribute [local simp] Parameters.checked_iff StageType.alternatives Parameters.required
  StageType.optional

theorem copy_checked
    (rendered : (StageType.renderCopy context ⟨.copy, fields⟩).result = .ok stage) :
    Parameters.Checked ⟨.copy, fields⟩ := by
  simp only [StageType.renderCopy, Layout.copyStage, Outcome.result_bind, Outcome.result_lift,
    Except.bind_eq_ok_iff, Layout.copyPlan_ok_iff] at rendered
  obtain ⟨_, _, device, made, _, inputName, _, pipeline, _, ⟨filename, _, backed, _⟩, _⟩ :=
    rendered
  have inputName := takes_of_textOr inputName
  have pipeline := takes_of_text pipeline
  rcases Parameters.imageDevice_ok_iff.mp made with
    ⟨device, given, rfl⟩ | ⟨absent, path, found, rfl⟩
  · have device : (Parameters.mk .copy fields).Takes "device" .device := by
      intro value same
      obtain rfl := Option.some.inj (given.symm.trans same)
      exact ⟨device, rfl, (Layout.backingFile_succeeds_iff.mp ⟨filename, backed⟩).2⟩
    simp [given, device, inputName, pipeline]
  · have device : (Parameters.mk .copy fields).Takes "device" .device := by
      intro value given
      rw [absent] at given
      contradiction
    have path := takes_of_text (Parameters.text_of_find? found)
    simp [absent, device, inputName, pipeline, path]

theorem kickstart_checked
    (rendered : StageType.renderKickstart surroundings ⟨.kickstart, fields⟩ = .ok options) :
    Parameters.Checked ⟨.kickstart, fields⟩ := by
  cases commit : (Parameters.mk .kickstart fields).find? "ostree_url" with
  | none =>
      cases tar : (Parameters.mk .kickstart fields).find? "tar_url" with
      | none => simp [StageType.renderKickstart, commit, tar] at rendered
      | some value =>
          simp only [StageType.renderKickstart, commit, tar, Option.isSome_none,
            Option.isSome_some, beq_true, Bool.false_eq_true, if_false,
            Except.bind_eq_ok_iff] at rendered
          obtain ⟨_, url, _⟩ := rendered
          simp [commit, tar, takes_of_absent commit, takes_of_text url]
  | some value =>
      cases tar : (Parameters.mk .kickstart fields).find? "tar_url" with
      | none =>
          simp only [StageType.renderKickstart, commit, tar, Option.isSome_none,
            Option.isSome_some, beq_false, Bool.not_true, Bool.false_eq_true, if_false, if_true,
            Except.bind_eq_ok_iff] at rendered
          obtain ⟨_, url, _, reference, _⟩ := rendered
          simp [commit, tar, takes_of_absent tar, takes_of_text url, takes_of_text reference]
      | some other => simp [StageType.renderKickstart, commit, tar] at rendered

theorem grub_checked
    (rendered : StageType.renderGrub context ⟨.grub, fields⟩ = .ok options) :
    Parameters.Checked ⟨.grub, fields⟩ := by
  simp only [StageType.renderGrub, Except.bind_eq_ok_iff] at rendered
  obtain ⟨_, _, _, kernelOptions, _, kernelVersion, _, uefi, _, legacy, _, vendor, _, install, _⟩ :=
    rendered
  simp [takes_of_textOr kernelOptions, takes_of_textOr kernelVersion, takes_of_flagOr uefi,
    takes_of_textOr legacy, takes_of_textOr vendor, takes_of_flagOr install]

theorem commandLine_checked
    (rendered : StageType.renderCommandLine context ⟨.kernelCommandLine, fields⟩ =
      .ok options) :
    Parameters.Checked ⟨.kernelCommandLine, fields⟩ := by
  simp only [StageType.renderCommandLine, StageType.rootIdentifier, Except.bind_eq_ok_iff]
    at rendered
  obtain ⟨_, ⟨_, rootId, _⟩, _, kernelOptions, _⟩ := rendered
  simp [takes_of_text? rootId, takes_of_textOr kernelOptions]

theorem renderOptions_checked (plain : type ≠ .copy)
    (rendered : (type.renderOptions surroundings context ⟨type, fields⟩).result = .ok options) :
    Parameters.Checked ⟨type, fields⟩ := by
  cases type with
  | copy => contradiction
  | kickstart => exact kickstart_checked (by simpa [StageType.renderOptions] using rendered)
  | grub => exact grub_checked (by simpa [StageType.renderOptions] using rendered)
  | kernelCommandLine =>
      exact commandLine_checked (by simpa [StageType.renderOptions] using rendered)
  | installerModules | firewall | firstBoot | groups | installerTemplate | efiDirectory
  | packages | partitionTable | users =>
      simp
  | installerMedium =>
      simp only [StageType.renderOptions, StageType.renderInstallerMedium,
        StageType.readBranding, Outcome.result_bind, Outcome.result_lift,
        Except.bind_eq_ok_iff] at rendered
      obtain ⟨_, kernel, _, ⟨_, vendor, _, product, _, version, _, label, _⟩, _⟩ := rendered
      simp [takes_of_text kernel, takes_of_text vendor, takes_of_text product,
        takes_of_text version, takes_of_text label]
  | liveMedium =>
      simp only [StageType.renderOptions, StageType.renderLiveMedium, StageType.readBranding,
        Outcome.result_lift, Except.bind_eq_ok_iff] at rendered
      obtain ⟨_, device, _, kernel, _, ⟨_, vendor, _, product, _, version, _, label, _⟩, _⟩ :=
        rendered
      simp [takes_of_text device, takes_of_text kernel, takes_of_text vendor,
        takes_of_text product, takes_of_text version, takes_of_text label]
  | buildstamp =>
      simp only [StageType.renderOptions, StageType.renderBuildstamp, Outcome.result_lift,
        Except.bind_eq_ok_iff] at rendered
      obtain ⟨_, product, _, version, _, variant, _⟩ := rendered
      simp [takes_of_text product, takes_of_text version, takes_of_textOr variant]
  | fileMode =>
      simp only [StageType.renderOptions, StageType.renderFileMode, Outcome.result_lift,
        Except.bind_eq_ok_iff] at rendered
      obtain ⟨_, path, _, mode, _, recursive, _⟩ := rendered
      simp [takes_of_text path, takes_of_text mode, takes_of_flagOr recursive]
  | discinfo =>
      simp only [StageType.renderOptions, StageType.renderDiscinfo, Outcome.result_lift,
        Except.bind_eq_ok_iff] at rendered
      obtain ⟨_, release, _⟩ := rendered
      simp [takes_of_text? release]
  | initialModules =>
      simp only [StageType.renderOptions, StageType.renderInitialModules, Outcome.result_bind,
        Outcome.result_lift, Except.bind_eq_ok_iff] at rendered
      obtain ⟨_, kernel, _, additional, _⟩ := rendered
      simp [takes_of_text kernel, takes_of_texts additional]
  | grubCore =>
      simp only [StageType.renderOptions, StageType.renderGrubCore, Outcome.result_bind,
        Outcome.result_lift, Except.bind_eq_ok_iff] at rendered
      obtain ⟨_, filename, _, _, _, platform, _⟩ := rendered
      simp [takes_of_text filename, takes_of_text platform]
  | webServer =>
      simp only [StageType.renderOptions, StageType.renderWebServer, Outcome.result_lift,
        Except.bind_eq_ok_iff] at rendered
      obtain ⟨_, path, _, root, _, listen, _⟩ := rendered
      simp [takes_of_text path, takes_of_text root, takes_of_text listen]
  | tree =>
      simp only [StageType.renderOptions, StageType.renderTree, Outcome.result_lift,
        Except.bind_eq_ok_iff] at rendered
      obtain ⟨_, repository, _, readOnly, _⟩ := rendered
      simp [takes_of_text repository, takes_of_flagOr readOnly]
  | diskFormat =>
      simp only [StageType.renderOptions, StageType.renderDiskFormat, Outcome.result_lift,
        Except.bind_eq_ok_iff] at rendered
      obtain ⟨_, filename, _, format, _, compat, _⟩ := rendered
      simp [takes_of_text filename, takes_of_text format, takes_of_textOr compat]
  | relabel =>
      simp only [StageType.renderOptions, StageType.renderRelabel, Outcome.result_lift,
        Except.bind_eq_ok_iff] at rendered
      obtain ⟨_, copying, _⟩ := rendered
      simp [takes_of_flagOr copying]
  | services =>
      simp only [StageType.renderOptions, StageType.renderServices, Outcome.result_lift,
        Except.bind_eq_ok_iff] at rendered
      obtain ⟨_, enabled, _, disabled, _, target, _⟩ := rendered
      simp [takes_of_texts enabled, takes_of_texts disabled, takes_of_text? target]
  | mediumAssembly =>
      simp only [StageType.renderOptions, StageType.renderAssembly, Outcome.result_lift,
        Except.bind_eq_ok_iff] at rendered
      obtain ⟨_, filename, _, label, _, _, _, legacy, _⟩ := rendered
      simp [takes_of_text filename, takes_of_text label, takes_of_flagOr legacy]
  | zipl =>
      simp only [StageType.renderOptions, StageType.renderZipl, Outcome.result_lift,
        Except.bind_eq_ok_iff] at rendered
      obtain ⟨_, kernel, _⟩ := rendered
      simp [takes_of_text kernel]

/-- A stage that renders has checked what it read. -/
theorem render_checked
    (rendered : (type.render surroundings context fields).result = .ok stage) :
    Parameters.Checked ⟨type, fields⟩ := by
  by_cases copy : type = .copy
  · subst copy
    exact copy_checked rendered
  · rw [render_of_ne_copy copy] at rendered
    simp only [Outcome.result_bind, Except.bind_eq_ok_iff] at rendered
    obtain ⟨options, rendered, _⟩ := rendered
    exact renderOptions_checked copy rendered

end Takes

section Agreement

/-- The second parameters agree with the first on all that the stage reads of these. -/
def AgreeOnReads (type : StageType) (first second : Fields) : Prop :=
  ∀ entry ∈ (Parameters.mk type first).reads, AgreeOn first second entry.1

theorem agreeOnReads_iff :
    AgreeOnReads type first second ↔
      (∀ key ∈ type.alternatives ++ (Parameters.mk type first).required,
        AgreeOn first second key) ∧
      ∀ entry ∈ type.optional, AgreeOn first second entry.1 := by
  simp only [AgreeOnReads, reads, List.forall_mem_append, List.forall_mem_map]

theorem renderCopy_congr (agree : AgreeOnReads .copy first second) :
    StageType.renderCopy context ⟨.copy, second⟩ =
      StageType.renderCopy context ⟨.copy, first⟩ := by
  obtain ⟨required, device, inputName⟩ : _ ∧ AgreeOn first second "device" ∧
      AgreeOn first second "input_name" := by
    simpa [StageType.optional] using agreeOnReads_iff.mp agree
  have imageDevice : StageType.imageDevice ⟨.copy, second⟩ =
      StageType.imageDevice ⟨.copy, first⟩ := by
    cases read : (Parameters.mk .copy first).record? "device" with
    | error failure => simp only [StageType.imageDevice, device.record?, read, Except.error_bind]
    | ok record =>
        cases record with
        | some given =>
            simp only [StageType.imageDevice, device.record?, read, Except.ok_bind]
        | none =>
            have absent : (Parameters.mk .copy first).given? "device" = none := by
              simpa using record?_ok_iff.mp read
            have filename : AgreeOn first second "filename" :=
              required _ (by simp [Parameters.required, absent])
            simp only [StageType.imageDevice, device.record?, filename.text]
  have pipeline : AgreeOn first second "pipeline" :=
    required _ (by simp only [Parameters.required]; split <;> simp)
  simp only [StageType.renderCopy, imageDevice, inputName.textOr, pipeline.text]

/-- The parameters that a kickstart looks at beside the references to what it deploys. -/
theorem renderKickstart_congr (agree : AgreeOnReads .kickstart first second) :
    StageType.renderKickstart surroundings ⟨.kickstart, second⟩ =
      StageType.renderKickstart surroundings ⟨.kickstart, first⟩ := by
  have required := (agreeOnReads_iff.mp agree).1
  have commit : AgreeOn first second "ostree_url" :=
    required _ (by simp [StageType.alternatives])
  have tar : AgreeOn first second "tar_url" := required _ (by simp [StageType.alternatives])
  by_cases deploys : (Parameters.find? ⟨.kickstart, first⟩ "ostree_url").isSome = true ∧
      (Parameters.find? ⟨.kickstart, first⟩ "tar_url").isSome = false
  · have reference : AgreeOn first second "ostree_ref" :=
      required _ (by simp [Parameters.required, deploys])
    simp only [StageType.renderKickstart, commit.find?, tar.find?, commit.text, tar.text,
      reference.text]
  · simp only [StageType.renderKickstart, commit.find?, tar.find?, commit.text, tar.text]
    cases hasCommit : (Parameters.find? ⟨.kickstart, first⟩ "ostree_url").isSome <;>
      cases hasTar : (Parameters.find? ⟨.kickstart, first⟩ "tar_url").isSome <;>
      simp_all

theorem renderOptions_congr (plain : type ≠ .copy) (agree : AgreeOnReads type first second) :
    type.renderOptions surroundings context ⟨type, second⟩ =
      type.renderOptions surroundings context ⟨type, first⟩ := by
  obtain ⟨required, optional⟩ := agreeOnReads_iff.mp agree
  cases type
  case copy => contradiction
  case kickstart => simp only [StageType.renderOptions, renderKickstart_congr agree]
  case installerModules | firewall | firstBoot | groups | installerTemplate | efiDirectory
      | packages | partitionTable | users => rfl
  all_goals
    simp only [Parameters.required, StageType.alternatives, StageType.optional, List.nil_append,
      List.forall_mem_cons] at required optional
  case installerMedium =>
    obtain ⟨kernel, vendor, product, version, label, _⟩ := required
    simp only [StageType.renderOptions, StageType.renderInstallerMedium,
      StageType.readBranding, kernel.text, vendor.text, product.text, version.text, label.text]
  case liveMedium =>
    obtain ⟨device, kernel, vendor, product, version, label, _⟩ := required
    simp only [StageType.renderOptions, StageType.renderLiveMedium,
      StageType.readBranding, device.text, kernel.text, vendor.text, product.text,
      version.text, label.text]
  case buildstamp =>
    obtain ⟨product, version, _⟩ := required
    obtain ⟨variant, _⟩ := optional
    simp only [StageType.renderOptions, StageType.renderBuildstamp, product.text,
      version.text, variant.textOr]
  case fileMode =>
    obtain ⟨path, mode, _⟩ := required
    obtain ⟨recursive, _⟩ := optional
    simp only [StageType.renderOptions, StageType.renderFileMode, path.text, mode.text,
      recursive.flagOr]
  case discinfo =>
    obtain ⟨release, _⟩ := optional
    simp only [StageType.renderOptions, StageType.renderDiscinfo, release.text?]
  case initialModules =>
    obtain ⟨kernel, _⟩ := required
    obtain ⟨additional, _⟩ := optional
    simp only [StageType.renderOptions, StageType.renderInitialModules, kernel.text,
      additional.texts]
  case grub =>
    obtain ⟨kernelOptions, kernelVersion, uefi, legacy, vendor, install, _⟩ := optional
    simp only [StageType.renderOptions, StageType.renderGrub, kernelOptions.textOr,
      kernelVersion.textOr, uefi.flagOr, legacy.textOr, vendor.textOr, install.flagOr]
  case grubCore =>
    obtain ⟨filename, platform, _⟩ := required
    simp only [StageType.renderOptions, StageType.renderGrubCore, filename.text,
      platform.text]
  case kernelCommandLine =>
    obtain ⟨rootId, kernelOptions, _⟩ := optional
    simp only [StageType.renderOptions, StageType.renderCommandLine,
      StageType.rootIdentifier, rootId.text?, kernelOptions.textOr]
  case webServer =>
    obtain ⟨path, root, listen, _⟩ := required
    simp only [StageType.renderOptions, StageType.renderWebServer, path.text, root.text,
      listen.text]
  case tree =>
    obtain ⟨repository, _⟩ := required
    obtain ⟨readOnly, _⟩ := optional
    simp only [StageType.renderOptions, StageType.renderTree, repository.text,
      readOnly.flagOr]
  case diskFormat =>
    obtain ⟨filename, format, _⟩ := required
    obtain ⟨compat, _⟩ := optional
    simp only [StageType.renderOptions, StageType.renderDiskFormat, filename.text,
      format.text, compat.textOr]
  case relabel =>
    obtain ⟨copying, _⟩ := optional
    simp only [StageType.renderOptions, StageType.renderRelabel, copying.flagOr]
  case services =>
    obtain ⟨enabled, disabled, target, _⟩ := optional
    simp only [StageType.renderOptions, StageType.renderServices, enabled.texts,
      disabled.texts, target.text?]
  case mediumAssembly =>
    obtain ⟨filename, label, _⟩ := required
    obtain ⟨legacy, _⟩ := optional
    simp only [StageType.renderOptions, StageType.renderAssembly, filename.text,
      label.text, legacy.flagOr]
  case zipl =>
    obtain ⟨kernel, _⟩ := required
    simp only [StageType.renderOptions, StageType.renderZipl, kernel.text]

/-- What a stage does not read makes no difference to it. -/
theorem renderStage_congr (agree : AgreeOnReads type first second) :
    renderStage surroundings context type.name second =
      renderStage surroundings context type.name first := by
  have same : type.render surroundings context second =
      type.render surroundings context first := by
    by_cases copy : type = .copy
    · subst copy
      exact renderCopy_congr agree
    · rw [render_of_ne_copy copy, render_of_ne_copy copy, renderOptions_congr copy agree]
  rw [renderStage_of_name type.ofName?_name, same, renderStage_of_name type.ofName?_name]

end Agreement

/-- What a stage that renders has read is of its documented type, unless it is a list that
was passed over; and what the stage has not read makes no difference. -/
theorem renderStage_validated_iff
    (rendered : (renderStage surroundings context type.name fields).result = .ok stage) :
    (Validated ⟨type, fields⟩ ↔
      ∀ key, (key, Shape.texts) ∈ reads ⟨type, fields⟩ → ¬ PassedOver ⟨type, fields⟩ key) ∧
    ∀ others, AgreeOnReads type fields others →
      (renderStage surroundings context type.name others).result = .ok stage := by
  refine ⟨?_, fun others agree => ?_⟩
  · rw [result_renderStage] at rendered
    exact (render_checked rendered).validated_iff
  · rw [renderStage_congr agree, rendered]

theorem renderStage_validated_services :
    ∃ stage, (renderStage ⟨.builtin, "salt", "token"⟩ (plainContext (onlyMounted "/" "none"))
        "org.osbuild.systemd" [(.text "enabled_services", .texts ["sshd"])]).result =
          .ok stage ∧
      Validated ⟨.services, [(.text "enabled_services", .texts ["sshd"])]⟩ := by
  obtain ⟨stage, rendered⟩ : ∃ stage, (renderStage ⟨.builtin, "salt", "token"⟩
      (plainContext (onlyMounted "/" "none")) StageType.services.name
      [(.text "enabled_services", .texts ["sshd"])]).result = .ok stage := by
    rw [result_renderStage]
    exact ⟨_, rfl⟩
  refine ⟨stage, rendered, (renderStage_validated_iff rendered).1.mpr ?_⟩
  rintro key member ⟨value, given, counts, filled⟩
  have listed : key = "enabled_services" ∨ key = "disabled_services" := by
    simpa [reads, StageType.alternatives, Parameters.required, StageType.optional] using member
  rcases listed with rfl | rfl
  · obtain rfl : Document.texts ["sshd"] = value := Option.some.inj given
    cases counts
  · cases given

/-- A number stands for the services to enable. -/
theorem renderStage_passes_number :
    (plainContext (onlyMounted "/" "none")).WellTyped ∧
    (∃ stage, (renderStage ⟨.builtin, "salt", "token"⟩
        (plainContext (onlyMounted "/" "none")) "org.osbuild.systemd"
        [(.text "enabled_services", .int 0)]).result = .ok stage) ∧
    ¬ Validated ⟨.services, [(.text "enabled_services", .int 0)]⟩ := by
  have known : StageType.ofName? "org.osbuild.systemd" = some .services :=
    StageType.ofName?_name .services
  rw [renderStage_of_name known]
  refine ⟨plainContext_wellTyped "/" "none", ⟨_, rfl⟩, fun validated => ?_⟩
  obtain ⟨items, spelled⟩ := validated ("enabled_services", .texts)
    (by simp [reads, StageType.alternatives, Parameters.required, StageType.optional])
    (.int 0) rfl
  cases spelled

end Catalog

end ImageStages
