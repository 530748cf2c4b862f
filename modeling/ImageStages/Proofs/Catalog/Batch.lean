import Mathlib.Data.List.Forall2
import ImageStages.Catalog.Batch
import ImageStages.Proofs.Results

namespace ImageStages

theorem StageType.name_injective : Function.Injective StageType.name :=
  fun _ _ => eq_of_name_eq

namespace Catalog

variable {surroundings : Surroundings} {context : Context} {request : Fields}
  {requests : List Fields} {stage : Stage} {stages : List Stage} {failure : Failure}

/-- A batch of this request alone renders to this stage. -/
def RendersAlone (surroundings : Surroundings) (context : Context) (request : Fields)
    (stage : Stage) : Prop :=
  (renderBatch surroundings context [request]).result = .ok [stage]

def FailsAlone (surroundings : Surroundings) (context : Context) (request : Fields)
    (failure : Failure) : Prop :=
  (renderBatch surroundings context [request]).result = .error failure

theorem renderBatch_eq_mapM (surroundings : Surroundings) (context : Context)
    (requests : List Fields) :
    renderBatch surroundings context requests =
      requests.mapM (renderRequest surroundings context) := by
  induction requests with
  | nil => rfl
  | cons request rest ih => rw [renderBatch, List.mapM_cons, ih]

theorem result_renderBatch (surroundings : Surroundings) (context : Context)
    (requests : List Fields) :
    (renderBatch surroundings context requests).result =
      requests.mapM fun request => (renderRequest surroundings context request).result := by
  rw [renderBatch_eq_mapM, Outcome.result_mapM]

theorem rendersAlone_iff :
    RendersAlone surroundings context request stage ↔
      (renderRequest surroundings context request).result = .ok stage := by
  simp [RendersAlone, result_renderBatch, Except.bind_eq_ok_iff]

theorem failsAlone_iff :
    FailsAlone surroundings context request failure ↔
      (renderRequest surroundings context request).result = .error failure := by
  simp [FailsAlone, result_renderBatch, Except.bind_eq_error_iff]

theorem renderBatch_ok_iff :
    (renderBatch surroundings context requests).result = .ok stages ↔
      List.Forall₂ (RendersAlone surroundings context) requests stages := by
  simp only [result_renderBatch, Except.mapM_eq_ok_iff, ← rendersAlone_iff]

theorem renderBatch_succeeds_iff :
    (∃ stages, (renderBatch surroundings context requests).result = .ok stages) ↔
      ∀ request ∈ requests, ∃ stage, RendersAlone surroundings context request stage := by
  simp only [result_renderBatch, Except.mapM_succeeds_iff, ← rendersAlone_iff]

theorem renderBatch_error_iff :
    (renderBatch surroundings context requests).result = .error failure ↔
      ∃ before request after, requests = before ++ request :: after ∧
        (∀ earlier ∈ before, ∃ stage, RendersAlone surroundings context earlier stage) ∧
        FailsAlone surroundings context request failure := by
  simp only [result_renderBatch, Except.mapM_eq_error_iff, ← rendersAlone_iff, failsAlone_iff]

theorem renderBatch_append (surroundings : Surroundings) (context : Context)
    (first second : List Fields) :
    renderBatch surroundings context (first ++ second) = do
      let stages ← renderBatch surroundings context first
      let others ← renderBatch surroundings context second
      return stages ++ others := by
  simp only [renderBatch_eq_mapM, List.mapM_append]

theorem typeName_ok_iff {name : Text} :
    typeName request = .ok name ↔
      Fields.find? request (.text "type") = some (.text name) ∧ name ≠ [] := by
  unfold typeName
  split
  · rename_i given found
    by_cases empty : given = []
    · simp only [empty, if_true, found, reduceCtorEq, false_iff]
      intro completed
      obtain ⟨same, filled⟩ := completed
      simp_all
    · simp only [empty, if_false, Except.ok.injEq, found, Option.some.injEq]
      constructor
      · intro succeeded
        obtain rfl := succeeded
        exact ⟨rfl, empty⟩
      · intro made
        obtain ⟨same, _⟩ := made
        simpa using same
  · rename_i unnamed
    simp only [reduceCtorEq, false_iff]
    intro answered
    obtain ⟨found, _⟩ := answered
    exact unnamed name found

theorem knownType_ok_iff {name : Text} {type : StageType} :
    knownType name = .ok type ↔ type.name = name := by
  rw [← StageType.ofName?_eq_some_iff]
  cases known : StageType.ofName? name <;> simp [knownType, known]

/-- The request names a type and gives these parameters, none if they are left out. -/
structure Asks (request : Fields) (parameters : Parameters) : Prop where
  named : Fields.find? request (.text "type") = some (.text parameters.stage.name)
  given : Fields.find? request (.text "params") = some (.object parameters.fields) ∨
    ((Fields.find? request (.text "params")).getD .null = .null ∧ parameters.fields = [])

theorem parametersOf_ok_iff {name : Text} {fields : Fields} :
    parametersOf name request = .ok fields ↔
      Fields.find? request (.text "params") = some (.object fields) ∨
        ((Fields.find? request (.text "params")).getD .null = .null ∧ fields = []) := by
  cases found : Fields.find? request (.text "params") with
  | none => simp [parametersOf, found, eq_comm]
  | some value =>
      cases value with
      | scalar scalar => cases scalar <;> simp [parametersOf, found, Document.null, eq_comm]
      | list items => simp [parametersOf, found, Document.null]
      | object given => simp [parametersOf, found, Document.null]

theorem asks_iff {parameters : Parameters} :
    Asks request parameters ↔
      typeName request = .ok parameters.stage.name ∧
        parametersOf parameters.stage.name request = .ok parameters.fields := by
  have filled := parameters.stage.ofString_name_ne_nil
  rw [typeName_ok_iff, parametersOf_ok_iff]
  constructor
  · intro holds
    obtain ⟨named, given⟩ := holds
    exact ⟨⟨named, filled⟩, given⟩
  · intro known
    obtain ⟨⟨named, _⟩, given⟩ := known
    exact ⟨named, given⟩

theorem result_renderStage (type : StageType) (fields : Fields) :
    (renderStage surroundings context type.name fields).result =
      (type.render surroundings context fields).result := by
  rw [renderStage_of_name type.ofName?_name]

/-- A request is rendered as its stage is with its parameters. -/
theorem Asks.result_renderRequest {parameters : Parameters} (asks : Asks request parameters) :
    (renderRequest surroundings context request).result =
      (parameters.stage.render surroundings context parameters.fields).result := by
  obtain ⟨named, given⟩ := asks_iff.mp asks
  simp only [renderRequest, named, given, renderStage_of_name parameters.stage.ofName?_name,
    Outcome.result_bind, Outcome.result_lift, Outcome.result_note, Outcome.result_pure,
    Except.ok_bind]
  cases (parameters.stage.render surroundings context parameters.fields).result <;> rfl

/-- Every stage but a copy is its options and no more. -/
theorem render_of_ne_copy {type : StageType} (plain : type ≠ .copy) (parameters : Fields) :
    type.render surroundings context parameters = do
      let options ← type.renderOptions surroundings context ⟨type, parameters⟩
      return type.stage options := by
  cases type <;> first | rfl | contradiction

theorem render_tag {type : StageType} {parameters : Fields}
    (rendered : (type.render surroundings context parameters).result = .ok stage) :
    stage.type = type.name := by
  by_cases copy : type = .copy
  · subst copy
    simp only [StageType.render, StageType.renderCopy, Layout.copyStage, Outcome.result_bind,
      Outcome.result_pure, Except.bind_eq_ok_iff, Except.ok.injEq] at rendered
    obtain ⟨_, _, _, _, _, _, _, _, _, _, _, _, rfl⟩ := rendered
    rfl
  · rw [render_of_ne_copy copy] at rendered
    simp only [Outcome.result_bind, Outcome.result_pure, Except.bind_eq_ok_iff,
      Except.ok.injEq] at rendered
    obtain ⟨_, _, rfl⟩ := rendered
    rfl

/-- A rendered request is one of a type that is known, with its parameters. -/
theorem renderRequest_ok
    (rendered : (renderRequest surroundings context request).result = .ok stage) :
    ∃ type fields, typeName request = .ok (StageType.name type) ∧
      parametersOf type.name request = .ok fields ∧
      (type.render surroundings context fields).result = .ok stage := by
  simp only [renderRequest, renderStage, Outcome.result_bind, Outcome.result_lift,
    Outcome.result_note, Outcome.result_pure, Except.bind_eq_ok_iff, Except.ok.injEq,
    knownType_ok_iff] at rendered
  obtain ⟨name, named, fields, read, _, ⟨type, rfl, built⟩, _, _, _, _, rfl⟩ := rendered
  exact ⟨type, fields, named, read, built⟩

theorem renderRequest_tag
    (rendered : (renderRequest surroundings context request).result = .ok stage) :
    Fields.find? request (.text "type") = some (.text stage.type) := by
  obtain ⟨type, _, named, _, built⟩ := renderRequest_ok rendered
  rw [render_tag built]
  exact (typeName_ok_iff.mp named).1

theorem renderBatch_rearranged
    (rendered : (renderBatch surroundings context requests).result = .ok stages)
    {arrangement : List (Fields × Stage)} (same : arrangement.Perm (requests.zip stages)) :
    (renderBatch surroundings context (arrangement.map Prod.fst)).result =
      .ok (arrangement.map Prod.snd) := by
  have paired := List.forall₂_iff_zip.mp (renderBatch_ok_iff.mp rendered)
  rw [renderBatch_ok_iff, List.forall₂_map_left_iff, List.forall₂_map_right_iff,
    List.forall₂_same]
  intro pair member
  exact paired.2 (same.mem_iff.mp member)

/-- A batch is all or nothing, and agrees with rendering each request on its own. -/
theorem renderBatch_independent (surroundings : Surroundings) (context : Context)
    (requests : List Fields) :
    ((∃ stages, (renderBatch surroundings context requests).result = .ok stages) ↔
      ∀ request ∈ requests, ∃ stage, RendersAlone surroundings context request stage) ∧
    (∀ stages, (renderBatch surroundings context requests).result = .ok stages →
      stages.length = requests.length ∧
      (∀ (index : Nat) (request : Fields) (stage : Stage),
        requests[index]? = some request → stages[index]? = some stage →
          RendersAlone surroundings context request stage ∧
          Fields.find? request (.text "type") = some (.text stage.type)) ∧
      ∀ arrangement : List (Fields × Stage), arrangement.Perm (requests.zip stages) →
        (renderBatch surroundings context (arrangement.map Prod.fst)).result =
          .ok (arrangement.map Prod.snd)) ∧
    (∀ failure, (renderBatch surroundings context requests).result = .error failure ↔
      ∃ before request after, requests = before ++ request :: after ∧
        (∀ earlier ∈ before, ∃ stage, RendersAlone surroundings context earlier stage) ∧
        FailsAlone surroundings context request failure) ∧
    ∀ others, renderBatch surroundings context (requests ++ others) = do
      let stages ← renderBatch surroundings context requests
      let more ← renderBatch surroundings context others
      return stages ++ more := by
  refine ⟨renderBatch_succeeds_iff, ?_, fun failure => renderBatch_error_iff,
    renderBatch_append surroundings context requests⟩
  intro stages rendered
  have each := renderBatch_ok_iff.mp rendered
  refine ⟨each.length_eq.symm, ?_, fun _ same => renderBatch_rearranged rendered same⟩
  intro index request stage asked answered
  have paired : (request, stage) ∈ requests.zip stages :=
    List.mem_of_getElem? (List.getElem?_zip_eq_some.mpr ⟨asked, answered⟩)
  have alone := (List.forall₂_iff_zip.mp each).2 paired
  exact ⟨alone, renderRequest_tag (rendersAlone_iff.mp alone)⟩

end Catalog

end ImageStages
