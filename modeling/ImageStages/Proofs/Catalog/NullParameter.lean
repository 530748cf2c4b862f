import ImageStages.Proofs.Catalog.Validation

namespace ImageStages

/-- The failures are of one class and, where they refuse a request, name the same field. -/
def Failure.Like (first second : Failure) : Prop :=
  first.label = second.label ∧
    first.attributes.lookup ("field" : Text) = second.attributes.lookup ("field" : Text)

theorem Failure.Like.badRequest (message other : Text) (field : Option String) :
    (Failure.badRequest message field).Like (Failure.badRequest other field) :=
  ⟨rfl, rfl⟩

/-- The results are the same value, or failures that are alike. -/
inductive Except.EndsLike : Except Failure α → Except Failure α → Prop
  | ok (value : α) : EndsLike (.ok value) (.ok value)
  | error {first second : Failure} (like : first.Like second) :
      EndsLike (.error first) (.error second)

namespace Except.EndsLike

variable {first second : Except Failure α}

theorem refl (result : Except Failure α) : EndsLike result result := by
  cases result with
  | ok value => exact .ok value
  | error failure => exact .error ⟨rfl, rfl⟩

theorem bind {next other : α → Except Failure β} (like : EndsLike first second)
    (steps : ∀ value, EndsLike (next value) (other value)) :
    EndsLike (first >>= next) (second >>= other) := by
  cases like with
  | ok value => exact steps value
  | error like => exact .error like

end Except.EndsLike

/-- The second parameters have a null of this name, the first none, and the others are the
same. -/
structure Fields.AddsNull (key : String) (first second : Fields) : Prop where
  absent : first.find? (.text key) = none
  null : second.find? (.text key) = some .null
  others : ∀ other, other ≠ key → Parameters.AgreeOn first second other

theorem Fields.addsNull_put {fields : Fields} {key : String}
    (absent : fields.find? (.text key) = none) :
    AddsNull key fields (fields.put (.text key) .null) where
  absent := absent
  null := by simp [find?_put]
  others := fun other apart => by simp [Parameters.AgreeOn, find?_put, apart.symm]

namespace Fields.AddsNull

variable {key : String} {first second : Fields} (adds : AddsNull key first second)
  (type : StageType) (other : String)

include adds

theorem given? : Parameters.given? ⟨type, second⟩ other =
    Parameters.given? ⟨type, first⟩ other := by
  by_cases same : other = key
  · subst same
    simp [Parameters.given?, Parameters.find?, adds.absent, adds.null, Document.isNull]
  · exact (adds.others other same).given? type

theorem text? : Parameters.text? ⟨type, second⟩ other =
    Parameters.text? ⟨type, first⟩ other := by
  rw [Parameters.text?, adds.given?]
  rfl

theorem textOr (default : String) : Parameters.textOr ⟨type, second⟩ other default =
    Parameters.textOr ⟨type, first⟩ other default := by
  rw [Parameters.textOr, adds.text?, Parameters.textOr]

theorem flagOr (default : Bool) : Parameters.flagOr ⟨type, second⟩ other default =
    Parameters.flagOr ⟨type, first⟩ other default := by
  rw [Parameters.flagOr, adds.given?]
  rfl

theorem record? : Parameters.record? ⟨type, second⟩ other =
    Parameters.record? ⟨type, first⟩ other := by
  rw [Parameters.record?, adds.given?]
  rfl

theorem texts : Parameters.texts ⟨type, second⟩ other =
    Parameters.texts ⟨type, first⟩ other := by
  by_cases same : other = key
  · subst same
    simp [Parameters.texts, Parameters.find?, adds.absent, adds.null, Document.given,
      Scalar.given]
  · exact (adds.others other same).texts type

/-- A required parameter is missing in one case and of the wrong kind in the other. -/
theorem text : Except.EndsLike (Parameters.text ⟨type, first⟩ other)
    (Parameters.text ⟨type, second⟩ other) := by
  by_cases same : other = key
  · subst same
    simp only [Parameters.text, Parameters.find?, adds.absent, adds.null]
    exact .error (.badRequest _ _ _)
  · rw [(adds.others other same).text type]
    exact .refl _

theorem imageDevice : Except.EndsLike (StageType.imageDevice ⟨type, first⟩)
    (StageType.imageDevice ⟨type, second⟩) := by
  simp only [StageType.imageDevice, adds.record?]
  refine (Except.EndsLike.refl _).bind fun device => ?_
  cases device with
  | some device => exact .refl _
  | none => exact (adds.text type "filename").bind fun _ => .refl _

theorem readBranding : Except.EndsLike (StageType.readBranding ⟨type, first⟩)
    (StageType.readBranding ⟨type, second⟩) :=
  (adds.text type "vendor").bind fun _ => (adds.text type "product").bind fun _ =>
    (adds.text type "version").bind fun _ => (adds.text type "isolabel").bind fun _ => .refl _

end Fields.AddsNull

namespace Catalog

variable {surroundings : Surroundings} {context : Context} {type : StageType} {key : String}
  {first second : Fields}

theorem renderCopy_endsLike (adds : Fields.AddsNull key first second) :
    Except.EndsLike (StageType.renderCopy context ⟨.copy, first⟩).result
      (StageType.renderCopy context ⟨.copy, second⟩).result := by
  simp only [StageType.renderCopy, Outcome.result_bind, Outcome.result_lift, adds.textOr]
  exact (Except.EndsLike.refl _).bind fun _ => (adds.imageDevice .copy).bind fun _ =>
    (Except.EndsLike.refl _).bind fun _ => (adds.text .copy "pipeline").bind fun _ => .refl _

/-- Where the sources of a kickstart stay as they are, the same one is read. -/
theorem renderKickstart_endsLike (adds : Fields.AddsNull key first second)
    (unasked : key ∉ StageType.kickstart.alternatives) :
    Except.EndsLike (StageType.renderKickstart surroundings ⟨.kickstart, first⟩)
      (StageType.renderKickstart surroundings ⟨.kickstart, second⟩) := by
  simp only [StageType.alternatives, List.mem_cons, List.not_mem_nil, or_false, not_or] at unasked
  have commit := (adds.others "ostree_url" (Ne.symm unasked.1)).find? .kickstart
  have tar := (adds.others "tar_url" (Ne.symm unasked.2)).find? .kickstart
  simp only [StageType.renderKickstart, commit, tar]
  split
  · exact .refl _
  · split
    · exact (adds.text .kickstart "ostree_url").bind fun _ =>
        (adds.text .kickstart "ostree_ref").bind fun _ => .refl _
    · exact (adds.text .kickstart "tar_url").bind fun _ => .refl _

theorem renderOptions_endsLike (adds : Fields.AddsNull key first second)
    (unasked : key ∉ type.alternatives) (plain : type ≠ .copy) :
    Except.EndsLike (type.renderOptions surroundings context ⟨type, first⟩).result
      (type.renderOptions surroundings context ⟨type, second⟩).result := by
  cases type with
  | copy => contradiction
  | kickstart => exact renderKickstart_endsLike adds unasked
  | installerModules | firewall | firstBoot | groups | installerTemplate | efiDirectory
  | packages | partitionTable | users => exact .refl _
  | installerMedium =>
      simp only [StageType.renderOptions, StageType.renderInstallerMedium, Outcome.result_bind,
        Outcome.result_lift]
      exact (adds.text _ "kernel_version").bind fun _ =>
        (adds.readBranding _).bind fun _ => .refl _
  | liveMedium =>
      exact (adds.text _ "install_device").bind fun _ =>
        (adds.text _ "kernel_version").bind fun _ => (adds.readBranding _).bind fun _ => .refl _
  | buildstamp =>
      simp only [StageType.renderOptions, StageType.renderBuildstamp, Outcome.result_lift,
        adds.textOr]
      exact (adds.text _ "product").bind fun _ => (adds.text _ "version").bind fun _ => .refl _
  | fileMode =>
      simp only [StageType.renderOptions, StageType.renderFileMode, Outcome.result_lift,
        adds.flagOr]
      exact (adds.text _ "path").bind fun _ => (adds.text _ "mode").bind fun _ => .refl _
  | discinfo =>
      simp only [StageType.renderOptions, StageType.renderDiscinfo, adds.text?]
      exact .refl _
  | initialModules =>
      simp only [StageType.renderOptions, StageType.renderInitialModules, Outcome.result_bind,
        Outcome.result_lift, adds.texts]
      exact (adds.text _ "kernel_version").bind fun _ => .refl _
  | grub =>
      simp only [StageType.renderOptions, StageType.renderGrub, adds.textOr, adds.flagOr]
      exact .refl _
  | grubCore =>
      simp only [StageType.renderOptions, StageType.renderGrubCore, Outcome.result_bind,
        Outcome.result_lift]
      exact (adds.text _ "filename").bind fun _ => (Except.EndsLike.refl _).bind fun _ =>
        (adds.text _ "platform").bind fun _ => .refl _
  | kernelCommandLine =>
      simp only [StageType.renderOptions, StageType.renderCommandLine, StageType.rootIdentifier,
        adds.text?, adds.textOr]
      exact .refl _
  | webServer =>
      exact (adds.text _ "path").bind fun _ => (adds.text _ "html_root").bind fun _ =>
        (adds.text _ "listen").bind fun _ => .refl _
  | tree =>
      simp only [StageType.renderOptions, StageType.renderTree, Outcome.result_lift, adds.flagOr]
      exact (adds.text _ "repo").bind fun _ => .refl _
  | diskFormat =>
      simp only [StageType.renderOptions, StageType.renderDiskFormat, Outcome.result_lift,
        adds.textOr]
      exact (adds.text _ "filename").bind fun _ => (adds.text _ "format").bind fun _ => .refl _
  | relabel =>
      simp only [StageType.renderOptions, StageType.renderRelabel, adds.flagOr]
      exact .refl _
  | services =>
      simp only [StageType.renderOptions, StageType.renderServices, adds.texts, adds.text?]
      exact .refl _
  | mediumAssembly =>
      simp only [StageType.renderOptions, StageType.renderAssembly, Outcome.result_lift,
        adds.flagOr]
      exact (adds.text _ "filename").bind fun _ => (adds.text _ "isolabel").bind fun _ => .refl _
  | zipl => exact (adds.text _ "kernel").bind fun _ => .refl _

/-- The failure refuses a request and names no field for it. -/
def NamesNoField (failure : Failure) : Prop :=
  failure.attributes.lookup ("field" : Text) = some .null

theorem failsWith_of_endsLike {first second : Except Failure α}
    (like : Except.EndsLike first second) :
    FailsWith NamesNoField first ↔ FailsWith NamesNoField second := by
  cases like with
  | ok value => rfl
  | error like => simp only [failsWith_error, NamesNoField, like.2]

/-- A required parameter is refused under its name. -/
@[simp] theorem not_namesNoField_text {parameters : Parameters} :
    ¬ FailsWith NamesNoField (parameters.text key) := by
  unfold Parameters.text
  split
  · simp [NamesNoField, Parameters.absent, Failure.badRequest, Failure.attributes,
      InvalidInput.attributes]
  · unfold Parameters.asText
    split <;> simp [NamesNoField, Parameters.wrongKind, Failure.badRequest, Failure.attributes,
      InvalidInput.attributes]

/-- A kickstart is refused without a field if it has both sources or none, and only then. -/
theorem namesNoField_kickstart_iff {fields : Fields} :
    FailsWith NamesNoField (StageType.kickstart.render surroundings context fields).result ↔
      (Parameters.find? ⟨.kickstart, fields⟩ "ostree_url").isSome =
        (Parameters.find? ⟨.kickstart, fields⟩ "tar_url").isSome := by
  rw [render_of_ne_copy (by decide)]
  simp only [StageType.renderOptions, StageType.renderKickstart]
  cases (Parameters.find? ⟨.kickstart, fields⟩ "ostree_url").isSome <;>
    cases (Parameters.find? ⟨.kickstart, fields⟩ "tar_url").isSome <;>
    simp [NamesNoField, Failure.badRequest, Failure.attributes, InvalidInput.attributes]

/-- A null source makes one source out of none, and two out of one. -/
theorem not_endsLike_kickstart (adds : Fields.AddsNull key first second)
    (asked : key ∈ StageType.kickstart.alternatives) :
    ¬ Except.EndsLike (StageType.kickstart.render surroundings context first).result
      (StageType.kickstart.render surroundings context second).result := by
  intro like
  have same := failsWith_of_endsLike like
  rw [namesNoField_kickstart_iff, namesNoField_kickstart_iff] at same
  simp only [StageType.alternatives, List.mem_cons, List.not_mem_nil, or_false] at asked
  rcases asked with rfl | rfl
  · have tar := (adds.others "tar_url" (by decide)).find? .kickstart
    simp only [tar] at same
    cases given : first.find? (.text "tar_url") <;>
      simp [Parameters.find?, adds.absent, adds.null, given] at same
  · have commit := (adds.others "ostree_url" (by decide)).find? .kickstart
    simp only [commit] at same
    cases given : first.find? (.text "ostree_url") <;>
      simp [Parameters.find?, adds.absent, adds.null, given] at same

theorem render_endsLike_iff (adds : Fields.AddsNull key first second) :
    Except.EndsLike (type.render surroundings context first).result
        (type.render surroundings context second).result ↔ key ∉ type.alternatives := by
  by_cases copy : type = .copy
  · subst copy
    exact iff_of_true (renderCopy_endsLike adds) (by simp [StageType.alternatives])
  · refine ⟨fun like asked => ?_, fun unasked => ?_⟩
    · cases type with
      | kickstart => exact not_endsLike_kickstart adds asked like
      | _ => cases asked
    · rw [render_of_ne_copy copy, render_of_ne_copy copy, Outcome.result_bind,
        Outcome.result_bind]
      exact (renderOptions_endsLike adds unasked copy).bind fun _ => .refl _

/-- A stage ends alike whether a parameter is null or not there, unless the parameter is one of
which the stage asks whether it is there: with those it never does. -/
theorem renderStage_null_iff {fields : Fields}
    (absent : fields.find? (.text key) = none) :
    Except.EndsLike (renderStage surroundings context type.name fields).result
        (renderStage surroundings context type.name (fields.put (.text key) .null)).result ↔
      key ∉ type.alternatives := by
  rw [result_renderStage, result_renderStage, render_endsLike_iff (Fields.addsNull_put absent)]

/-- A mode that is null is refused like one that is missing. -/
theorem renderStage_null_mode :
    Fields.find? [(.text "path", .text "/boot")] (.text "mode") = none ∧
    "mode" ∉ StageType.fileMode.alternatives ∧
    Except.EndsLike
      (renderStage ⟨.builtin, "salt", "token"⟩ (plainContext (onlyMounted "/" "none"))
        "org.osbuild.chmod" [(.text "path", .text "/boot")]).result
      (renderStage ⟨.builtin, "salt", "token"⟩ (plainContext (onlyMounted "/" "none"))
        "org.osbuild.chmod" [(.text "path", .text "/boot"), (.text "mode", .null)]).result := by
  have absent : Fields.find? [(.text "path", .text "/boot")] (.text "mode") = none := rfl
  have unasked : "mode" ∉ StageType.fileMode.alternatives := by simp [StageType.alternatives]
  have extended : Fields.put [(.text "path", .text "/boot")] (.text "mode") .null =
      [(.text "path", .text "/boot"), (.text "mode", .null)] := rfl
  have like : Except.EndsLike
      (renderStage ⟨.builtin, "salt", "token"⟩ (plainContext (onlyMounted "/" "none"))
        StageType.fileMode.name [(.text "path", .text "/boot")]).result
      (renderStage ⟨.builtin, "salt", "token"⟩ (plainContext (onlyMounted "/" "none"))
        StageType.fileMode.name
        (Fields.put [(.text "path", .text "/boot")] (.text "mode") .null)).result :=
    (renderStage_null_iff absent).mpr unasked
  rw [extended] at like
  exact ⟨absent, unasked, like⟩

/-- A kickstart from a tarball is refused if the address of a repository is null beside it. -/
theorem kickstart_null_repository :
    (plainContext (onlyMounted "/" "none")).WellTyped ∧
    (∃ stage, (renderStage ⟨.builtin, "salt", "token"⟩ (plainContext (onlyMounted "/" "none"))
      "org.osbuild.kickstart" [(.text "tar_url", .text "file:///a.tar")]).result = .ok stage) ∧
    ¬ Except.EndsLike
      (renderStage ⟨.builtin, "salt", "token"⟩ (plainContext (onlyMounted "/" "none"))
        "org.osbuild.kickstart" [(.text "tar_url", .text "file:///a.tar")]).result
      (renderStage ⟨.builtin, "salt", "token"⟩ (plainContext (onlyMounted "/" "none"))
        "org.osbuild.kickstart"
        [(.text "tar_url", .text "file:///a.tar"), (.text "ostree_url", .null)]).result := by
  have known : StageType.ofName? "org.osbuild.kickstart" = some .kickstart :=
    StageType.ofName?_name .kickstart
  obtain ⟨stage, rendered⟩ : ∃ stage, (StageType.kickstart.render ⟨.builtin, "salt", "token"⟩
      (plainContext (onlyMounted "/" "none"))
      [(.text "tar_url", .text "file:///a.tar")]).result = .ok stage := ⟨_, rfl⟩
  obtain ⟨failure, failed⟩ : ∃ failure, (StageType.kickstart.render ⟨.builtin, "salt", "token"⟩
      (plainContext (onlyMounted "/" "none"))
      [(.text "tar_url", .text "file:///a.tar"), (.text "ostree_url", .null)]).result =
        .error failure := ⟨_, rfl⟩
  rw [renderStage_of_name known, renderStage_of_name known, rendered, failed]
  refine ⟨plainContext_wellTyped "/" "none", ⟨stage, rfl⟩, fun like => ?_⟩
  cases like

end Catalog

end ImageStages
