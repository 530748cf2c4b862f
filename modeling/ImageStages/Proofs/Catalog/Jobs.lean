import ImageStages.Proofs.Catalog.Batch
import ImageStages.Proofs.Journal.Masked

namespace ImageStages

variable {left right : Surroundings}

/-- Rendering depends on the same: the surroundings differ in the token of the job. -/
structure Surroundings.SameSort (left right : Surroundings) : Prop where
  settings : left.settings = right.settings
  salt : left.salt = right.salt

theorem StageType.render_sameSort (type : StageType) (alike : left.SameSort right)
    (context : Context) (parameters : Fields) :
    type.render left context parameters = type.render right context parameters := by
  obtain ⟨settings, salt, token⟩ := left
  obtain ⟨otherSettings, otherSalt, other⟩ := right
  obtain ⟨rfl, rfl⟩ := alike
  cases type <;> rfl

namespace Catalog

variable (alike : left.SameSort right) (context : Context)

theorem batchLogger_masked (left right : Surroundings) :
    (batchLogger left).bound.masked = (batchLogger right).bound.masked := by
  have dashed : .char '-' ∈ Text.ofString "stages-" := by decide
  simp only [batchLogger, Logger.registry, Extra.masked, List.map_cons, Extra.maskedValue,
    if_true, Document.jobSort_append dashed]

theorem renderedNote_sameSort (left right : Surroundings) (stage : Stage) :
    (renderedNote (batchLogger left) stage).SameSort (renderedNote (batchLogger right) stage) :=
  ⟨rfl, rfl, batchLogger_masked left right, rfl⟩

theorem dumpNote_sameSort (left right : Surroundings) (stage : Stage) :
    (dumpNote (batchLogger left) stage).SameSort (dumpNote (batchLogger right) stage) := by
  refine ⟨rfl, rfl, ?_, rfl⟩
  simp only [dumpNote, Logger.note, Logger.dumping, Extra.masked_put,
    batchLogger_masked left right]

include alike

theorem renderRequest_sameSort (request : Fields) :
    Outcome.Agree Note.SameSort Eq (renderRequest left context request)
      (renderRequest right context request) := by
  unfold renderRequest
  refine (Outcome.Agree.refl Note.SameSort.refl _).bind fun {name _} same => ?_
  obtain rfl := same
  refine (Outcome.Agree.refl Note.SameSort.refl _).bind fun {parameters _} same => ?_
  obtain rfl := same
  have rendered : renderStage left context name parameters =
      renderStage right context name parameters := by
    simp only [renderStage, StageType.render_sameSort _ alike]
  rw [rendered]
  refine (Outcome.Agree.refl Note.SameSort.refl _).bind fun {stage _} same => ?_
  obtain rfl := same
  refine (Outcome.Agree.note (renderedNote_sameSort left right stage)).bind fun _ => ?_
  refine (Outcome.Agree.note (dumpNote_sameSort left right stage)).bind fun _ => ?_
  exact .pure rfl

/-- A batch renders the same in each job of its sort. -/
theorem renderBatch_sameSort (requests : List Fields) :
    Outcome.Agree Note.SameSort Eq (renderBatch left context requests)
      (renderBatch right context requests) := by
  rw [renderBatch_eq_mapM, renderBatch_eq_mapM]
  have each : Outcome.Agree Note.SameSort (List.Forall₂ Eq)
      (requests.mapM (renderRequest left context))
      (requests.mapM (renderRequest right context)) :=
    .mapM (List.forall₂_same.mpr fun request _ => renderRequest_sameSort alike context request)
  exact each.mono fun same => List.forall₂_eq_eq_eq ▸ same

end Catalog

end ImageStages
