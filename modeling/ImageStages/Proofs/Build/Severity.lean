import ImageStages.Proofs.Build.Boundary
import ImageStages.Proofs.Build.Reading

namespace ImageStages

/-- The failure is neither invalid input nor a violated invariant, and no mishap. -/
def Failure.IsGeneral : Failure → Prop
  | .general _ => True
  | _ => False

@[simp] theorem Failure.not_isGeneral_mishap (cause : Mishap) :
    ¬ (Failure.mishap cause).IsGeneral := id

@[simp] theorem Failure.not_isGeneral_invalid (cause : InvalidInput) :
    ¬ (Failure.invalid cause).IsGeneral := id

@[simp] theorem Failure.not_isGeneral_invariant (cause : InvariantViolation) :
    ¬ (Failure.invariant cause).IsGeneral := id

@[simp] theorem Failure.not_isGeneral_badRequest (message : Text) (field : Option String) :
    ¬ (Failure.badRequest message field).IsGeneral := id

/-- The result is a failure without a severity that is no mishap. -/
abbrev Unclassed (result : Except Failure α) : Prop :=
  FailsWith Failure.IsGeneral result

section Unclassed

variable {result : Except Failure α}

theorem not_unclassed_of_not_strays (safe : ¬ Strays result) : ¬ Unclassed result := by
  rintro ⟨failure, failed, general⟩
  refine safe ⟨failure, failed, ?_⟩
  cases failure with
  | general details => trivial
  | _ => exact general.elim

@[simp] theorem not_failsWith_false {use : Except ε α} : ¬ FailsWith (fun _ => False) use := by
  simp [FailsWith]

theorem not_unclassed_mapM {step : α → Except Failure β} {values : List α}
    (each : ∀ value, ¬ Unclassed (step value)) : ¬ Unclassed (values.mapM step) := by
  intro unclassed
  obtain ⟨_, value, _, _, _, failed⟩ := failsWith_mapM_iff.mp unclassed
  exact each value failed

end Unclassed

section Builders

variable {arch stageType label device name pipeline : Document} {table : PartitionTable}
  {users : List User} {groups : List Group} {salt : String}

theorem Medium.not_unclassed_efiNames : ¬ Unclassed (efiNames arch stageType) := by
  simp only [efiNames, failsWith_bind, failsWith_mapError, Failure.not_isGeneral_mishap,
    not_failsWith_false, false_or, not_exists, not_and]
  intro key _
  split <;> simp

theorem Medium.not_unclassed_volumeId : ¬ Unclassed (volumeId label arch) := by
  rw [volumeId, Unclassed, failsWith_mapError]
  rintro ⟨fault, _, general⟩
  unfold labelFailure at general
  repeat' split at general
  all_goals exact general

theorem Account.not_unclassed_storedPassword {user : User} :
    ¬ Unclassed (storedPassword salt user).result := by
  by_cases checked : user.password = .null ∨ user.password.IsText
  · rintro ⟨failure, failed, general⟩
    obtain ⟨_, _, rfl⟩ := (storedPassword_error_iff salt checked).mp failed
    exact general
  · cases given : user.password with
    | scalar scalar =>
        cases scalar <;> simp_all [storedPassword, Document.isNull, isHashOf]
    | _ => simp [storedPassword, given, Document.isNull, isHashOf]

theorem Account.not_unclassed_userRecords : ¬ Unclassed (userRecords salt users).result := by
  simp only [userRecords, Outcome.result_bind, Outcome.result_mapM, Outcome.result_pure,
    failsWith_bind, not_failsWith_ok, and_false, exists_false, or_false]
  refine not_unclassed_mapM fun user => ?_
  simp [provisionUser, not_unclassed_storedPassword]

theorem Account.not_unclassed_groupsOptions : ¬ Unclassed (groupsOptions groups) := by
  simp only [groupsOptions, Except.pure_eq_ok, failsWith_bind, not_failsWith_ok, and_false,
    exists_false, or_false]
  refine not_unclassed_mapM fun group => ?_
  simp [provisionGroup]

theorem Layout.not_unclassed_copyStage :
    ¬ Unclassed (copyStage name pipeline table device).result := by
  have backed : ¬ Unclassed (backingFile device) := by
    simp only [backingFile, Outcome.lift_mishap, failsWith_bind, failsWith_mapError,
      Failure.not_isGeneral_mishap, not_failsWith_false, false_or, not_exists, not_and]
    intro type _
    split <;> simp
  have mounted (filesystem : Filesystem) (source : Document) :
      ¬ Unclassed (filesystemMount filesystem source) := by
    simp only [filesystemMount, Outcome.lift_mishap, failsWith_bind, failsWith_mapError,
      Failure.not_isGeneral_mishap, not_failsWith_false, false_or, not_exists, not_and]
    intro type _
    split <;> simp
  have resolved (filename : Document) : ¬ Unclassed (resolveAll filename table.partitions) :=
    not_unclassed_mapM fun entry => by simp [resolve, mounted]
  simp [copyStage, copyPlan, backed, resolved]

end Builders

namespace Catalog

variable {surroundings : Surroundings} {context : Context} {type : StageType}
  {parameters : Parameters} {fields : Fields}

theorem not_unclassed_renderOptions :
    ¬ Unclassed (type.renderOptions surroundings context ⟨type, fields⟩).result := by
  by_cases safe : type ∈ straying
  · cases type with
    | installerMedium =>
        simp [StageType.renderOptions, StageType.renderInstallerMedium, StageType.readBranding,
          Medium.installerOptions, Medium.not_unclassed_efiNames, not_unclassed_of_not_strays]
    | liveMedium =>
        simp [StageType.renderOptions, StageType.renderLiveMedium, StageType.readBranding,
          Medium.liveOptions, Medium.not_unclassed_efiNames, not_unclassed_of_not_strays]
    | initialModules =>
        simp [StageType.renderOptions, StageType.renderInitialModules,
          Installer.initialOptions, not_unclassed_of_not_strays]
    | mediumAssembly =>
        simp [StageType.renderOptions, StageType.renderAssembly, Medium.assemblyOptions,
          Medium.not_unclassed_volumeId, not_unclassed_of_not_strays]
    | users =>
        simp [StageType.renderOptions, StageType.renderUsers, Account.not_unclassed_userRecords]
    | firstBoot =>
        simp [StageType.renderOptions, StageType.renderFirstBoot,
          Account.not_unclassed_userRecords]
    | groups => simp [StageType.renderOptions, Account.not_unclassed_groupsOptions]
    | copy =>
        simp [StageType.renderOptions, StageType.renderCopy, Layout.not_unclassed_copyStage,
          not_unclassed_of_not_strays]
    | _ => simp [straying] at safe
  · exact not_unclassed_of_not_strays (not_strays_renderOptions safe)

theorem not_unclassed_render : ¬ Unclassed (type.render surroundings context fields).result := by
  by_cases copy : type = .copy
  · subst copy
    simp [StageType.render, StageType.renderCopy, Layout.not_unclassed_copyStage,
      not_unclassed_of_not_strays]
  · simp [render_of_ne_copy copy, not_unclassed_renderOptions]

theorem not_unclassed_renderRequest {request : Fields} :
    ¬ Unclassed (renderRequest surroundings context request).result := by
  simp [renderRequest, renderStage, not_unclassed_render, not_unclassed_of_not_strays]

theorem not_unclassed_renderBatch {requests : List Fields} :
    ¬ Unclassed (renderBatch surroundings context requests).result := by
  rw [result_renderBatch]
  exact not_unclassed_mapM fun request => not_unclassed_renderRequest

end Catalog

theorem BuildRequest.not_unclassed_ofDocument {data : Document} :
    ¬ Unclassed (ofDocument data) := by
  rintro ⟨failure, failed, general⟩
  by_cases refusal : IsRefusal failure
  · obtain ⟨message, field, rfl⟩ := refusal
    exact general
  · have overflows := ofDocument_unrefused_iff.mp ⟨failure, failed, refusal⟩
    rw [ofDocument_of_overflows overflows] at failed
    obtain rfl := Except.error.inj failed
    exact general

namespace Command

variable {surroundings : Surroundings} {files : Files} {location : Text.Location}
  {types : List Text}

theorem not_unclassed_readRequest : ¬ Unclassed (readRequest files location) := by
  unfold readRequest
  simp only
  repeat' split
  all_goals simp

/-- The failure of a rendering is invalid input, a violated invariant or a mishap. -/
theorem not_unclassed_renderFile :
    ¬ Unclassed (renderFile surroundings files location types).result := by
  simp [renderFile, not_unclassed_readRequest, BuildRequest.not_unclassed_ofDocument,
    Catalog.not_unclassed_renderBatch]

end Command

end ImageStages
