import ImageStages.Build.Request
import ImageStages.Command.Run
import ImageStages.Proofs.Catalog.Strays

namespace ImageStages

namespace Catalog

variable {surroundings : Surroundings} {context : Context} {request : Fields} {name : Text}

@[simp] theorem not_strays_typeName : ¬ Strays (typeName request) := by
  unfold typeName
  split
  · split <;> simp
  · simp

@[simp] theorem not_strays_parametersOf : ¬ Strays (parametersOf name request) := by
  unfold parametersOf
  split <;> simp

@[simp] theorem not_strays_knownType : ¬ Strays (knownType name) := by
  cases known : StageType.ofName? name <;> simp [knownType, known]

theorem renderRequest_strays_iff :
    Strays (renderRequest surroundings context request).result ↔
      ∃ parameters, Asks request parameters ∧ StageStrays context parameters := by
  simp only [renderRequest, renderStage, Outcome.result_bind, Outcome.result_lift,
    Outcome.result_note, Outcome.result_pure, failsWith_bind, not_strays_typeName,
    not_strays_parametersOf, not_strays_knownType, not_failsWith_ok, and_false, exists_false,
    or_false, false_or, knownType_ok_iff]
  constructor
  · intro tripped
    obtain ⟨_, named, fields, given, type, rfl, strays⟩ := tripped
    exact ⟨⟨type, fields⟩, asks_iff.mpr ⟨named, given⟩, render_strays_iff.mp strays⟩
  · intro trips
    obtain ⟨⟨type, fields⟩, asks, strays⟩ := trips
    obtain ⟨named, given⟩ := asks_iff.mp asks
    exact ⟨_, named, fields, given, type, rfl, render_strays_iff.mpr strays⟩

end Catalog

/-- A run without files of a journal ends with an exit code on any failure but a stray one. -/
theorem Command.reject_iff {session : Session} {files : Files} {failure : Failure} :
    ((Command.reject session files none failure).result = .ok Command.rejectedCode ∨
        (Command.reject session files none failure).result = .ok Command.abortedCode) ↔
      ¬ failure.IsStray := by
  cases failure <;>
    simp [Command.reject, Command.rejection?, Command.keep, Failure.IsStray]

namespace BuildRequest

abbrev rendered (surroundings : Surroundings) (request : BuildRequest) :
    Except Failure (List Stage) :=
  (Catalog.renderBatch surroundings request.context request.stages).result

/-- The first stage that does not render trips over what it is rendered from. -/
def Trips (surroundings : Surroundings) (request : BuildRequest) : Prop :=
  ∃ before asked after parameters, request.stages = before ++ asked :: after ∧
    (∀ earlier ∈ before,
      ∃ stage, Catalog.RendersAlone surroundings request.context earlier stage) ∧
    Catalog.Asks asked parameters ∧ Catalog.StageStrays request.context parameters

variable {surroundings : Surroundings} {request : BuildRequest}

/-- A build of one stage ends as its rendering does. -/
theorem rendered_singleton {asked : Fields} {parameters : Parameters}
    (alone : request.stages = [asked]) (asks : Catalog.Asks asked parameters) :
    request.rendered surroundings =
      (parameters.stage.render surroundings request.context parameters.fields).result.map
        ([·]) := by
  rw [rendered, Catalog.result_renderBatch, alone, List.mapM_cons, asks.result_renderRequest]
  cases (parameters.stage.render surroundings request.context parameters.fields).result <;> rfl

theorem rendered_strays_iff :
    Strays (request.rendered surroundings) ↔ request.Trips surroundings := by
  unfold Strays rendered Trips
  rw [Catalog.result_renderBatch, failsWith_mapM_iff]
  simp only [Catalog.renderRequest_strays_iff, ← Catalog.rendersAlone_iff]
  constructor
  · intro tripped
    obtain ⟨before, asked, after, split, rendered, parameters, strays⟩ := tripped
    exact ⟨before, asked, after, parameters, split, rendered, strays⟩
  · intro trips
    obtain ⟨before, asked, after, parameters, split, rendered, strays⟩ := trips
    exact ⟨before, asked, after, split, rendered, parameters, strays⟩

/-- Unless a stage trips, a build ends in stages or in a failure that has an exit code. -/
theorem rendered_bounded_iff (surroundings : Surroundings) (request : BuildRequest) :
    (((∃ stages, request.rendered surroundings = .ok stages) ∨
        (∃ cause, request.rendered surroundings = .error (.invalid cause)) ∨
        ∃ cause, request.rendered surroundings = .error (.invariant cause)) ↔
      ¬ request.Trips surroundings) ∧
    ∀ failure session files, request.rendered surroundings = .error failure →
      (((Command.reject session files none failure).result = .ok Command.rejectedCode ∨
          (Command.reject session files none failure).result = .ok Command.abortedCode) ↔
        ¬ request.Trips surroundings) := by
  rw [← rendered_strays_iff]
  cases ended : request.rendered surroundings with
  | ok stages => simp
  | error failure =>
      constructor
      · cases failure <;> simp [Failure.IsStray]
      · rintro _ session files ⟨⟩
        rw [Command.reject_iff]
        simp

/-- A build whose copy is given a loopback device with a number for its options. -/
def numericOptions : Document := .record [
  ("arch", .text "x86_64"),
  ("partition_table", .record [
    ("type", .text "gpt"),
    ("partitions", .list [.record [
      ("start", .int 2048),
      ("size", .int 8192),
      ("filesystem", .record [("type", .text "xfs"), ("mountpoint", .text "/")])]])]),
  ("stages", .list [.record [
    ("type", .text "org.osbuild.copy"),
    ("params", .record [
      ("pipeline", .text "tree"),
      ("device", .record [("type", .text "org.osbuild.loopback"), ("options", .int 5)])])]])]

/-- The build is accepted, and ends in a mishap that no exit code stands for. -/
theorem numericOptions_escapes :
    ∃ request, BuildRequest.ofDocument numericOptions = .ok request ∧
      request.rendered ⟨.builtin, "salt", "token"⟩ = .error (.mishap (.noMember .int "get")) ∧
      (Command.reject .initial ⟨[]⟩ none (.mishap (.noMember .int "get"))).result =
        .error (.mishap (.noMember .int "get")) := by
  refine ⟨_, rfl, ?_, rfl⟩
  have asks (asked fields : Fields)
      (named : Fields.find? asked (.text "type") = some (.text "org.osbuild.copy"))
      (given : Fields.find? asked (.text "params") = some (.object fields)) :
      Catalog.Asks asked ⟨.copy, fields⟩ := ⟨named, .inl given⟩
  rw [rendered_singleton rfl (asks _ _ rfl rfl)]
  rfl

end BuildRequest

end ImageStages
