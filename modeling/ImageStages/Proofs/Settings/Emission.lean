import ImageStages.Proofs.Boot.Partition
import ImageStages.Proofs.Catalog.Batch
import ImageStages.Proofs.Catalog.Parameters

namespace ImageStages

namespace Settings

variable {settings : Settings} {setting : Setting} {key value : Text}

theorem storedText?_eq_some_iff :
    settings.storedText? key = some value ↔
      settings.find? key = some (.text value) ∧ value ≠ [] := by
  simp only [storedText?, Option.filter_eq_some_iff, Option.bind_eq_some_iff,
    Document.text?_eq_some_iff, bne_iff_ne, ne_eq]
  constructor
  · rintro ⟨⟨_, found, rfl⟩, filled⟩
    exact ⟨found, filled⟩
  · rintro ⟨found, filled⟩
    exact ⟨⟨_, found, rfl⟩, filled⟩

theorem text_of_filled (found : settings.find? setting.key = some (.text value))
    (filled : value ≠ []) : settings.text setting = value := by
  rw [text, storedText?_eq_some_iff.mpr ⟨found, filled⟩, Option.getD_some]

theorem text_of_unfilled
    (unfilled : ∀ value, settings.find? setting.key = some (.text value) → value = []) :
    settings.text setting = setting.builtin := by
  have unstored : settings.storedText? setting.key = none := by
    rw [Option.eq_none_iff_forall_ne_some]
    intro value stored
    obtain ⟨found, filled⟩ := storedText?_eq_some_iff.mp stored
    exact filled (unfilled value found)
  rw [text, unstored, Option.getD_none]

theorem builtin_ne_empty (setting : Setting) : Text.ofString setting.builtin ≠ [] := by
  cases setting <;> decide

theorem text_ne_empty (settings : Settings) (setting : Setting) :
    settings.text setting ≠ [] := by
  cases stored : settings.storedText? setting.key with
  | none => simpa [text, stored] using builtin_ne_empty setting
  | some value => simpa [text, stored] using (storedText?_eq_some_iff.mp stored).2

theorem ofKey?_key (setting : Setting) : Setting.ofKey? setting.key = some setting := by
  cases setting <;> decide

/-- Asking by the key of a setting never fails. -/
theorem textOf_key (settings : Settings) (setting : Setting) :
    settings.textOf setting.key = .ok (settings.text setting) := by
  cases stored : settings.storedText? setting.key <;>
    simp [textOf, text, stored, ofKey?_key]

end Settings

namespace Setting

/-- The stage that tells a setting. -/
def stageType : Setting → StageType
  | .discinfoRelease => .discinfo
  | .ostreeOsname => .kickstart
  | .bootisoTemplates => .installerMedium
  | .loraxTemplate => .installerTemplate
  | .kernelImageDir => .liveMedium

/-- Where a setting stands among the options of its stage. -/
def path : Setting → List Text
  | .discinfoRelease => ["release"]
  | .ostreeOsname => ["ostree", "osname"]
  | .bootisoTemplates => ["templates"]
  | .loraxTemplate => ["path"]
  | .kernelImageDir => ["kernel", "dir"]

/-- What a stage tells of a setting.  A request may give a release of its own, and only
a kickstart that deploys a commit names an operating system. -/
def told (settings : Settings) (parameters : Parameters) : Setting → Option Text
  | .discinfoRelease =>
      some ((((parameters.find? "release").bind Document.text?).filter (· != [])).getD
        (settings.text .discinfoRelease))
  | .ostreeOsname =>
      if (parameters.find? "ostree_url").isSome then some (settings.text .ostreeOsname) else none
  | setting => some (settings.text setting)

theorem told_ne_empty {settings : Settings} {parameters : Parameters} {setting : Setting}
    {value : Text} (tells : setting.told settings parameters = some value) : value ≠ [] := by
  cases setting with
  | discinfoRelease =>
      obtain rfl := Option.some.inj tells
      cases given : ((parameters.find? "release").bind Document.text?).filter (· != []) with
      | none => simpa using settings.text_ne_empty _
      | some release => simpa using (Option.filter_eq_some_iff.mp given).2
  | ostreeOsname =>
      simp only [told, Option.ite_none_right_eq_some, Option.some.injEq] at tells
      obtain ⟨_, rfl⟩ := tells
      exact settings.text_ne_empty _
  | bootisoTemplates | loraxTemplate | kernelImageDir =>
      obtain rfl := Option.some.inj tells
      exact settings.text_ne_empty _

end Setting

/-- What a parameter gives as a text is the text that stands there. -/
theorem Parameters.find?_of_text? {parameters : Parameters} {key : String} {read : Option Text}
    (reads : parameters.text? key = .ok read) :
    (parameters.find? key).bind Document.text? = read := by
  cases read with
  | none =>
      have absent := Option.filter_eq_none_iff.mp (Parameters.text?_eq_none_iff.mp reads)
      cases found : parameters.find? key with
      | none => rfl
      | some value =>
          cases value with
          | scalar scalar => cases scalar <;> first | rfl | exact absurd rfl (absent _ found)
          | list items => rfl
          | object fields => rfl
  | some value =>
      have given := Parameters.text?_eq_some_iff.mp reads
      rw [(Option.filter_eq_some_iff.mp given).1, Option.bind_some, Document.text?]

namespace StageType

variable {surroundings : Surroundings} {context : Context} {parameters : Parameters}
  {fields : Fields}

theorem renderDiscinfo_tells
    (rendered : renderDiscinfo surroundings context parameters = .ok fields) :
    (Document.object fields).reach? Setting.discinfoRelease.path =
      (Setting.discinfoRelease.told surroundings.settings parameters).map .text := by
  simp only [renderDiscinfo, Except.bind_eq_ok_iff, Except.pure_eq_ok, Except.ok.injEq] at rendered
  obtain ⟨release, read, rfl⟩ := rendered
  rw [Setting.told, Parameters.find?_of_text? read]
  cases release with
  | none => rfl
  | some release =>
      have reached : (Document.object (Medium.discinfoOptions surroundings.settings context.arch
          (.text release))).reach? Setting.discinfoRelease.path =
            some ((Document.text release).orElse
              (.text (surroundings.settings.text .discinfoRelease))) := rfl
      refine reached.trans ?_
      by_cases empty : release = [] <;>
        simp [Document.orElse, Document.given, Scalar.given, Option.filter, empty]

theorem renderKickstart_tells
    (rendered : renderKickstart surroundings parameters = .ok fields) :
    (Document.object fields).reach? Setting.ostreeOsname.path =
      (Setting.ostreeOsname.told surroundings.settings parameters).map .text := by
  simp only [renderKickstart] at rendered
  split at rendered
  · cases rendered
  split at rendered
  · rename_i hasCommit
    simp only [Except.bind_eq_ok_iff, Except.pure_eq_ok, Except.ok.injEq] at rendered
    obtain ⟨url, _, ref, _, rfl⟩ := rendered
    simp only [Setting.told, hasCommit, if_true]
    rfl
  · rename_i hasTar
    simp only [Except.bind_eq_ok_iff, Except.pure_eq_ok, Except.ok.injEq] at rendered
    obtain ⟨url, _, rfl⟩ := rendered
    simp only [Setting.told, hasTar]
    rfl

theorem renderInstallerMedium_tells
    (rendered : (renderInstallerMedium surroundings context parameters).result = .ok fields) :
    (Document.object fields).reach? Setting.bootisoTemplates.path =
      some (.text (surroundings.settings.text .bootisoTemplates)) := by
  simp only [renderInstallerMedium, Medium.installerOptions, Outcome.result_bind,
    Outcome.result_lift, Outcome.result_lift_mishap, Outcome.result_note, Outcome.result_pure,
    Except.bind_eq_ok_iff, Except.ok.injEq] at rendered
  obtain ⟨_, _, _, _, _, _, _, _, _, _, _, _, rfl⟩ := rendered
  rfl

theorem renderLiveMedium_tells
    (rendered : renderLiveMedium surroundings context parameters = .ok fields) :
    (Document.object fields).reach? Setting.kernelImageDir.path =
      some (.text (surroundings.settings.text .kernelImageDir)) := by
  simp only [renderLiveMedium, Medium.liveOptions, Except.bind_eq_ok_iff,
    Except.pure_eq_ok, Except.ok.injEq] at rendered
  obtain ⟨_, _, _, _, _, _, _, _, rfl⟩ := rendered
  rfl

theorem render_tells {setting : Setting} {fields : Fields} {stage : Stage}
    (rendered : (setting.stageType.render surroundings context fields).result = .ok stage) :
    stage.option? setting.path =
      (setting.told surroundings.settings ⟨setting.stageType, fields⟩).map .text := by
  have plain : setting.stageType ≠ .copy := by cases setting <;> decide
  simp only [Catalog.render_of_ne_copy plain, Outcome.result_bind, Outcome.result_pure,
    Except.bind_eq_ok_iff, Except.ok.injEq] at rendered
  obtain ⟨options, made, rfl⟩ := rendered
  cases setting with
  | discinfoRelease => exact renderDiscinfo_tells made
  | ostreeOsname => exact renderKickstart_tells made
  | bootisoTemplates => exact renderInstallerMedium_tells made
  | loraxTemplate =>
      obtain rfl := Except.ok.inj made
      rfl
  | kernelImageDir => exact renderLiveMedium_tells made

end StageType

namespace Catalog

variable {surroundings : Surroundings} {context : Context} {request : Fields}
  {requests : List Fields} {stage : Stage} {stages : List Stage} {setting : Setting}

/-- The stage of a request tells the setting as it should where its type is the one that
tells it. -/
def Tells (settings : Settings) (setting : Setting) (request : Fields) (stage : Stage) : Prop :=
  stage.type = setting.stageType.name → ∃ fields,
    parametersOf setting.stageType.name request = .ok fields ∧
    stage.option? setting.path =
      (setting.told settings ⟨setting.stageType, fields⟩).map .text

theorem renderRequest_tells
    (rendered : (renderRequest surroundings context request).result = .ok stage) :
    Tells surroundings.settings setting request stage := by
  intro tagged
  obtain ⟨type, fields, _, given, built⟩ := renderRequest_ok rendered
  obtain rfl := StageType.name_injective ((render_tag built).symm.trans tagged)
  exact ⟨fields, given, StageType.render_tells built⟩

/-- In a batch each stage that tells a setting tells it as it should. -/
theorem renderBatch_tells
    (rendered : (renderBatch surroundings context requests).result = .ok stages)
    (setting : Setting) :
    List.Forall₂ (Tells surroundings.settings setting) requests stages :=
  (renderBatch_ok_iff.mp rendered).imp fun _ _ alone =>
    renderRequest_tells (rendersAlone_iff.mp alone)

end Catalog

end ImageStages
