import ImageStages.Installer.Runtime
import ImageStages.Medium.Tree
import ImageStages.Proofs.Document.Uses
import ImageStages.Proofs.Template.Faults

namespace ImageStages.Medium

variable {arch stageType format compat : Document} {failure : Failure}

section Architecture

def efiArchitectures : List Text := ["x86_64", "aarch64"]

def HasEfi (arch : Document) : Prop :=
  ∃ name ∈ efiArchitectures, arch = .text name

theorem efiNames?_eq_none_iff {key : Scalar} :
    (Architecture.ofKey? key).bind Architecture.efiNames? = none ↔
      ∀ name ∈ efiArchitectures, key ≠ .text name := by
  simp only [Architecture.ofKey?, Architecture.all, List.find?_cons]
  repeat' split
  all_goals simp_all [Architecture.efiNames?, Architecture.name, efiArchitectures]

theorem efiNames_error_iff (typed : arch.IsScalar) :
    efiNames arch stageType = .error failure ↔
      ¬ HasEfi arch ∧ failure = .invariant (.architecture arch stageType) := by
  obtain ⟨key, rfl⟩ := typed
  have unknown : (Architecture.ofKey? key).bind Architecture.efiNames? = none ↔
      ¬ HasEfi (.scalar key) := by
    rw [efiNames?_eq_none_iff]
    simp [HasEfi]
  rw [← unknown]
  cases known : (Architecture.ofKey? key).bind Architecture.efiNames? <;>
    simp [efiNames, Document.asKey, known, eq_comm (a := failure)]

theorem efiNames_strays_iff : Strays (efiNames arch stageType) ↔ ¬ arch.IsScalar := by
  cases arch with
  | scalar key =>
      cases known : (Architecture.ofKey? key).bind Architecture.efiNames? <;>
        simp [efiNames, Document.asKey, known]
  | list items => simp [efiNames, Document.asKey]
  | object fields => simp [efiNames, Document.asKey]

@[simp] theorem trips_codeFilter : Trips (codeFilter arch) ↔ ¬ arch.IsScalar := by
  simp [codeFilter]

@[simp] theorem trips_hasLegacyLoader : Trips (hasLegacyLoader arch) ↔ ¬ arch.IsScalar := by
  simp [hasLegacyLoader]

theorem codeFilter_succeeds (typed : arch.IsScalar) : ∃ filter, codeFilter arch = .ok filter := by
  obtain ⟨key, rfl⟩ := typed
  exact ⟨_, rfl⟩

theorem hasLegacyLoader_succeeds (typed : arch.IsScalar) :
    ∃ legacy, hasLegacyLoader arch = .ok legacy := by
  obtain ⟨key, rfl⟩ := typed
  exact ⟨_, rfl⟩

variable {settings : Settings} {kernelVersion installDevice : Document} {branding : Branding}

theorem installerOptions_error_iff (typed : arch.IsScalar) :
    (installerOptions settings kernelVersion arch branding).result = .error failure ↔
      ¬ HasEfi arch ∧ failure = .invariant (.architecture arch (.text installerStage)) := by
  obtain ⟨filter, filtered⟩ := codeFilter_succeeds typed
  obtain ⟨legacy, loaded⟩ := hasLegacyLoader_succeeds typed
  simp [installerOptions, Except.bind_eq_error_iff, efiNames_error_iff typed, filtered, loaded]

theorem installerOptions_strays_iff :
    Strays (installerOptions settings kernelVersion arch branding).result ↔
      ¬ arch.IsScalar := by
  by_cases typed : arch.IsScalar
  · obtain ⟨filter, filtered⟩ := codeFilter_succeeds typed
    obtain ⟨legacy, loaded⟩ := hasLegacyLoader_succeeds typed
    simp [installerOptions, efiNames_strays_iff, filtered, loaded, typed]
  · simp [installerOptions, efiNames_strays_iff, typed]

theorem liveOptions_error_iff (typed : arch.IsScalar) :
    liveOptions settings installDevice arch branding = .error failure ↔
      ¬ HasEfi arch ∧ failure = .invariant (.architecture arch (.text liveStage)) := by
  simp [liveOptions, Except.bind_eq_error_iff, efiNames_error_iff typed]

theorem liveOptions_strays_iff :
    Strays (liveOptions settings installDevice arch branding) ↔ ¬ arch.IsScalar := by
  simp [liveOptions, efiNames_strays_iff]

end Architecture

section Format

def diskFormats : List Text := ["qcow2", "vpc", "vmdk"]

theorem formatRecord_error_iff :
    formatRecord format compat = .error failure ↔
      (∀ name ∈ diskFormats, format ≠ .text name) ∧
        failure = .invariant (.imageFormat format) := by
  unfold formatRecord
  split
  · simp_all [Document.same_text_iff, diskFormats]
  · split
    · rename_i known
      rcases known with known | known <;> simp_all [Document.same_text_iff, diskFormats]
    · simp_all [Document.same_text_iff, diskFormats, eq_comm (a := failure)]

theorem conversionOptions_error_iff {filename : Document} :
    conversionOptions filename format compat = .error failure ↔
      (∀ name ∈ diskFormats, format ≠ .text name) ∧
        failure = .invariant (.imageFormat format) := by
  simp [conversionOptions, Except.bind_eq_error_iff, formatRecord_error_iff]

@[simp] theorem not_strays_conversionOptions {filename : Document} :
    ¬ Strays (conversionOptions filename format compat) := by
  intro strays
  obtain ⟨failure, failed, stray⟩ := strays
  obtain ⟨_, rfl⟩ := conversionOptions_error_iff.mp failed
  exact stray

end Format

section Label

variable {label : Text}

/-- What is wrong with a label, as the caller is told. -/
def labelRefusal (label : Text) (fault : Template.Fault) : Failure :=
  .invalid (.general [.text
    ("ISO label template " ++ (Document.text label).quoted ++ " must contain one %s: " ++
      fault.message)])

theorem volumeId_error_iff {name : Text} :
    volumeId (.text label) (.text name) = .error failure ↔
      ∃ fault, Template.fill label (.text name) = .error fault ∧
        failure = labelRefusal label fault := by
  have plain := Template.not_mishap_fill label name
  cases filled : Template.fill label (.text name) with
  | ok value => simp [volumeId, combine, filled]
  | error fault =>
      rw [filled] at plain
      cases fault with
      | mishap cause => exact absurd (failsWith_error.mpr trivial) plain
      | _ => simp [volumeId, combine, filled, labelFailure, labelRefusal, eq_comm (a := failure)]

/-- Neither missing keys nor arithmetic are excused. -/
theorem volumeId_strays_iff :
    Strays (volumeId (.text label) arch) ↔
      ∃ cause, Template.fill label arch = .error (.mishap cause) ∧
        cause.family ≠ .kind ∧ cause.family ≠ .value := by
  cases filled : Template.fill label arch with
  | ok value => simp [volumeId, combine, filled]
  | error fault =>
      cases fault with
      | mishap cause =>
          cases family : cause.family <;>
            simp [volumeId, combine, filled, labelFailure, family]
      | _ => simp [volumeId, combine, filled, labelFailure]

variable {filename legacy : Document}

theorem assemblyOptions_error_iff {name : Text} :
    assemblyOptions filename (.text label) (.text name) legacy = .error failure ↔
      ∃ fault, Template.fill label (.text name) = .error fault ∧
        failure = labelRefusal label fault := by
  simp [assemblyOptions, Except.bind_eq_error_iff, volumeId_error_iff]

theorem assemblyOptions_strays_iff :
    Strays (assemblyOptions filename (.text label) arch legacy) ↔
      ∃ cause, Template.fill label arch = .error (.mishap cause) ∧
        cause.family ≠ .kind ∧ cause.family ≠ .value := by
  simp [assemblyOptions, volumeId_strays_iff]

end Label

end ImageStages.Medium

namespace ImageStages.Installer

variable {kernelVersion arch : Document} {additional : List Text}

theorem initialOptions_succeeds (kernelVersion : Document) (additional : List Text)
    (typed : arch.IsScalar) :
    ∃ options,
      (initialOptions kernelVersion arch (.texts additional)).result = .ok options := by
  obtain ⟨key, rfl⟩ := typed
  have listed : (Document.texts additional).items = .ok (additional.map .text) := rfl
  cases given : (Document.texts additional).given <;>
    simp [initialOptions, initialModules, Document.asKey, given, listed]

theorem initialOptions_strays_iff :
    Strays (initialOptions kernelVersion arch (.texts additional)).result ↔
      ¬ arch.IsScalar := by
  by_cases typed : arch.IsScalar
  · obtain ⟨options, completed⟩ := initialOptions_succeeds kernelVersion additional typed
    simp [completed, typed]
  · simp [initialOptions, initialModules, typed]

end ImageStages.Installer
