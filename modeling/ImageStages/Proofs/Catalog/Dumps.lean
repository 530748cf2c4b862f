import ImageStages.Proofs.Catalog.Batch
import ImageStages.Proofs.Journal.Verbosity

namespace ImageStages

namespace Outcome

variable {sort : Note → Prop}

/-- All notes of the outcome are of the sort. -/
def Writes (sort : Note → Prop) (outcome : Outcome α) : Prop :=
  ∀ note ∈ outcome.notes, sort note

namespace Writes

theorem of_silent {outcome : Outcome α} (silent : outcome.notes = []) : Writes sort outcome := by
  simp [Writes, silent]

theorem note {written : Note} (holds : sort written) : Writes sort (Outcome.note written) :=
  List.forall_mem_singleton.mpr holds

theorem bind {first : Outcome α} {next : α → Outcome β} (earlier : Writes sort first)
    (later : ∀ value, Writes sort (next value)) : Writes sort (first >>= next) := by
  intro written member
  rw [notes_bind, List.mem_append] at member
  rcases member with before | after
  · exact earlier written before
  · cases ended : first.result with
    | error failure => simp [ended] at after
    | ok value =>
        rw [ended] at after
        exact later value written after

theorem mapM {step : α → Outcome β} (each : ∀ value, Writes sort (step value))
    (values : List α) : Writes sort (values.mapM step) := by
  induction values with
  | nil => exact of_silent rfl
  | cons head rest ih =>
      rw [List.mapM_cons]
      exact (each head).bind fun _ => ih.bind fun _ => of_silent rfl

end Writes

end Outcome

open Outcome (Writes)

theorem Installer.undumped_initialOptions (kernelVersion arch additional : Document) :
    Writes Note.Undumped (initialOptions kernelVersion arch additional) := by
  refine .bind (.of_silent rfl) fun modules => ?_
  exact .bind (.note (Note.undumped_ofSource _ (by decide) _ _)) fun _ => .of_silent rfl

theorem Boot.undumped_grubCoreOptions (filename : Document) (table : PartitionTable)
    (platform : Document) :
    Writes Note.Undumped (grubCoreOptions filename table platform) := by
  refine .bind (.of_silent rfl) fun index => ?_
  split
  · exact .bind (.note (Note.undumped_ofSource _ (by decide) _ _)) fun _ => .of_silent rfl
  · exact .of_silent rfl

theorem Medium.undumped_installerOptions (settings : Settings) (kernelVersion arch : Document)
    (branding : Branding) :
    Writes Note.Undumped (installerOptions settings kernelVersion arch branding) := by
  refine .bind (.of_silent rfl) fun names => .bind (.of_silent rfl) fun filter => ?_
  refine .bind (.of_silent rfl) fun legacy => ?_
  exact .bind (.note (Note.undumped_ofSource _ (by decide) _ _)) fun _ => .of_silent rfl

theorem Layout.undumped_copyStage (inputName pipeline : Document) (table : PartitionTable)
    (device : Document) :
    Writes Note.Undumped (copyStage inputName pipeline table device) := by
  have planned : Writes Note.Undumped (copyPlan inputName table device) := by
    refine .bind (.of_silent rfl) fun filename => .bind (.of_silent rfl) fun resolved => ?_
    exact .bind (.note (Note.undumped_ofSource _ (by decide) _ _)) fun _ => .of_silent rfl
  exact planned.bind fun plan => .bind (.of_silent rfl) fun input => .of_silent rfl

theorem Account.undumped_userRecords (salt : String) (users : List User) :
    Writes Note.Undumped (userRecords salt users) := by
  have stored (user : User) : Writes Note.Undumped (storedPassword salt user) := by
    unfold storedPassword
    split
    · exact .of_silent rfl
    · refine .bind (.of_silent rfl) fun hashed => ?_
      split
      · exact .of_silent rfl
      · refine .bind (.note (Note.undumped_ofSource _ (by decide) _ _)) fun _ => ?_
        exact .bind (.of_silent rfl) fun _ => .of_silent rfl
  have provisioned (user : User) : Writes Note.Undumped (provisionUser salt user) :=
    (stored user).bind fun _ => .bind (.of_silent rfl) fun _ => .of_silent rfl
  exact (Writes.mapM provisioned users).bind fun _ => .of_silent rfl

namespace StageType

variable (surroundings : Surroundings) (context : Context)

theorem undumped_renderCopy (parameters : Parameters) :
    Writes Note.Undumped (renderCopy context parameters) := by
  refine .bind (.of_silent rfl) fun table => .bind (.of_silent rfl) fun device => ?_
  refine .bind (.of_silent rfl) fun inputName => .bind (.of_silent rfl) fun pipeline => ?_
  exact Layout.undumped_copyStage _ _ _ _

theorem undumped_renderOptions (type : StageType) (parameters : Parameters) :
    Writes Note.Undumped (type.renderOptions surroundings context parameters) := by
  cases type
  case installerMedium =>
    exact .bind (.of_silent rfl) fun _ => .bind (.of_silent rfl) fun _ =>
      Medium.undumped_installerOptions _ _ _ _
  case copy => exact (undumped_renderCopy context parameters).bind fun _ => .of_silent rfl
  case initialModules =>
    exact .bind (.of_silent rfl) fun _ => .bind (.of_silent rfl) fun _ =>
      Installer.undumped_initialOptions _ _ _
  case firstBoot => exact (Account.undumped_userRecords _ _).bind fun _ => .of_silent rfl
  case users => exact (Account.undumped_userRecords _ _).bind fun _ => .of_silent rfl
  case grubCore =>
    exact .bind (.of_silent rfl) fun _ => .bind (.of_silent rfl) fun _ =>
      .bind (.of_silent rfl) fun _ => Boot.undumped_grubCoreOptions _ _ _
  all_goals exact .of_silent rfl

theorem undumped_render (type : StageType) (parameters : Fields) :
    Writes Note.Undumped (type.render surroundings context parameters) := by
  unfold render
  split
  · exact undumped_renderCopy context _
  · exact (undumped_renderOptions surroundings context _ _).bind fun _ => .of_silent rfl

end StageType

namespace Catalog

variable (surroundings : Surroundings) (context : Context)

theorem undumped_renderedNote (stage : Stage) :
    (renderedNote (batchLogger surroundings) stage).Undumped := by
  have names : (["job_id", "tags", "source"] : List Text).Nodup := by decide
  exact Note.undumped_of_tags names List.nodup_nil rfl rfl (by decide)

/-- Whatever a batch writes, a dump is of the lowest level. -/
theorem undumped_renderBatch (requests : List Fields) :
    Writes Note.Undumped (renderBatch surroundings context requests) := by
  rw [renderBatch_eq_mapM]
  refine .mapM (fun request => ?_) requests
  refine .bind (.of_silent rfl) fun name => .bind (.of_silent rfl) fun parameters => ?_
  refine .bind ?_ fun stage => ?_
  · exact .bind (.of_silent rfl) fun type => StageType.undumped_render surroundings context _ _
  · refine .bind (.note (undumped_renderedNote surroundings stage)) fun _ => ?_
    exact .bind (.note fun _ _ => rfl) fun _ => .of_silent rfl

end Catalog

end ImageStages
