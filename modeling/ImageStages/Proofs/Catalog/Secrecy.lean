import ImageStages.Proofs.Account.Secrecy
import ImageStages.Proofs.Catalog.Batch

namespace ImageStages

/-- The notes are the same but for displayed values that are related. -/
structure Note.Alike (secret : Document → Document → Prop) (left right : Note) : Prop where
  level : left.level = right.level
  message : Veiled secret left.message right.message
  bound : left.bound = right.bound
  own : left.own = right.own

/-- The entries are the same but for displayed values that are related. -/
structure Entry.Alike (secret : Document → Document → Prop) (left right : Entry) : Prop where
  level : left.record.level = right.record.level
  message : Veiled secret left.record.message right.record.message
  extra : left.record.extra = right.record.extra
  onConsole : left.onConsole = right.onConsole

/-- The stages are the same, or provision users that differ in passwords. -/
inductive Stage.Alike (secret : Document → Document → Prop) : Stage → Stage → Prop
  | same (stage : Stage) : Alike secret stage stage
  | users {left right : Fields}
      (alike : Fields.Alike (fun _ => Document.SameBut "password" secret) left right) :
      Alike secret (StageType.users.stage (Account.usersOptions left))
        (StageType.users.stage (Account.usersOptions right))

/-- The stage with the password of every user that it provisions made null. -/
def Stage.withoutPasswords (stage : Stage) : Stage :=
  if stage.type = StageType.users.name then
    { stage with options :=
        Fields.change "users" (Document.eachField (Document.blank "password")) stage.options }
  else stage

/-- The contexts differ in nothing but plain passwords. -/
structure Context.Alike (left right : Context) : Prop where
  same : right = { left with customizations :=
    { left.customizations with users := right.customizations.users } }
  users : List.Forall₂ User.Alike left.customizations.users right.customizations.users

variable {secret : Document → Document → Prop}

theorem Note.Alike.refl (note : Note) : Note.Alike secret note note :=
  ⟨rfl, .refl _, rfl, rfl⟩

namespace Session

variable {session : Session} {logger : Logger} {related : α → β → Prop}

theorem write_alike {left right : Note} (alike : Note.Alike secret left right) :
    Entry.Alike secret (session.write left) (session.write right) := by
  obtain ⟨level, message, bound, own⟩ := left
  obtain ⟨otherLevel, otherMessage, _, _⟩ := right
  obtain ⟨rfl, veiled, rfl, rfl⟩ := alike
  exact ⟨rfl, veiled, rfl, rfl⟩

theorem write_notes_alike {notes others : List Note}
    (alike : List.Forall₂ (Note.Alike secret) notes others) :
    List.Forall₂ (Entry.Alike secret) (notes.map session.write) (others.map session.write) := by
  rw [List.forall₂_map_left_iff, List.forall₂_map_right_iff]
  exact alike.imp fun _ _ note => write_alike note

/-- An operation over outcomes that agree writes entries that are alike. -/
theorem run_operation_alike {first : Outcome α} {second : Outcome β}
    (agree : Outcome.Agree (Note.Alike secret) related first second)
    (name : Text) (occurrence : Occurrence) (details : Extra) :
    List.Forall₂ (Entry.Alike secret)
      (session.run logger (.operation name occurrence details (Step.ofOutcome first))).entries
      (session.run logger
        (.operation name occurrence details (Step.ofOutcome second))).entries := by
  simp only [run, runAll_ofOutcome, agree.ended]
  have same : ∀ (session : Session) (note : Note),
      Entry.Alike secret (session.write note) (session.write note) :=
    fun session note => write_alike (.refl note)
  cases Operation.refusal? details with
  | some raised => exact .nil
  | none =>
      refine .cons (same _ _) (List.rel_append (write_notes_alike agree.notes) ?_)
      rw [List.forall₂_map_left_iff, List.forall₂_map_right_iff]
      exact List.forall₂_same.mpr fun note _ => same _ note

end Session

theorem Stage.withoutPasswords_users (records : Fields) :
    (StageType.users.stage (Account.usersOptions records)).withoutPasswords =
      StageType.users.stage (ImageStages.options
        [("users", (Document.object records).eachField (Document.blank "password"))]) :=
  rfl

namespace Stage.Alike

variable {left right : Stage}

theorem type_eq (alike : Stage.Alike secret left right) : left.type = right.type := by
  cases alike <;> rfl

theorem withoutPasswords_eq (alike : Stage.Alike secret left right) :
    left.withoutPasswords = right.withoutPasswords := by
  cases alike with
  | same stage => rfl
  | users alike =>
      have blanked := Document.eachField_eq_of_alike alike Document.SameBut.blank_eq
      rw [withoutPasswords_users, withoutPasswords_users, blanked]

theorem display_veiled (alike : Stage.Alike secret left right) :
    Veiled secret ((Document.object left.options).display .unicode)
      ((Document.object right.options).display .unicode) := by
  cases alike with
  | same stage => exact .refl _
  | users alike =>
      refine .display_object (.cons ⟨rfl, ?_⟩ .nil)
      exact .display_object (alike.imp fun _ _ entry => ⟨entry.1, .of_sameBut entry.2⟩)

end Stage.Alike

namespace Catalog

variable {surroundings : Surroundings} {salt : String} {context other : Context}

abbrev HashedIn (surroundings : Surroundings) (salt : String) (context other : Context) :
    Document → Document → Prop :=
  Account.HashedAmong surroundings.salt salt context.customizations.users
    other.customizations.users

theorem dumpNote_alike {logger : Logger} {left right : Stage}
    (alike : Stage.Alike secret left right) :
    Note.Alike secret (dumpNote logger left) (dumpNote logger right) := by
  refine ⟨rfl, ?_, rfl, rfl⟩
  have shown := alike.display_veiled.append_same (left.type ++ ": ")
  simpa [dumpNote, Logger.note, Document.quoted, alike.type_eq] using shown

/-- Of all stages only those that provision users read them. -/
theorem render_of_other {type : StageType} (users : type ≠ .users)
    (firstBoot : type ≠ .firstBoot) (alike : Context.Alike context other)
    (parameters : Fields) :
    type.render { surroundings with salt } other parameters =
      type.render surroundings context parameters := by
  rw [alike.same]
  cases type <;> first | rfl | contradiction

theorem render_users (surroundings : Surroundings) (context : Context) (parameters : Fields) :
    StageType.users.render surroundings context parameters = do
      let records ← Account.userRecords surroundings.salt context.customizations.users
      return StageType.users.stage (Account.usersOptions records) := by
  rw [render_of_ne_copy (by decide)]
  simp only [StageType.renderOptions, StageType.renderUsers, bind_assoc, pure_bind]

theorem render_firstBoot (surroundings : Surroundings) (context : Context)
    (parameters : Fields) :
    StageType.firstBoot.render surroundings context parameters = do
      let records ← Account.userRecords surroundings.salt context.customizations.users
      let options ← Account.firstBootOptions records
      return StageType.firstBoot.stage options := by
  rw [render_of_ne_copy (by decide)]
  simp only [StageType.renderOptions, StageType.renderFirstBoot, bind_assoc]

theorem render_agree (type : StageType) (alike : Context.Alike context other)
    (parameters : Fields) :
    Outcome.Agree (Note.Alike (HashedIn surroundings salt context other))
      (Stage.Alike (HashedIn surroundings salt context other))
      (type.render surroundings context parameters)
      (type.render { surroundings with salt } other parameters) := by
  have records : Outcome.Agree (Note.Alike (HashedIn surroundings salt context other)) _
      (Account.userRecords surroundings.salt context.customizations.users)
      (Account.userRecords salt other.customizations.users) :=
    Account.userRecords_agree Note.Alike.refl alike.users
  by_cases users : type = .users
  · subst users
    rw [render_users, render_users]
    exact records.bind fun same => .pure (.users same)
  · by_cases firstBoot : type = .firstBoot
    · subst firstBoot
      rw [render_firstBoot, render_firstBoot]
      refine records.bind fun same => ?_
      rw [Account.firstBootOptions_eq same]
      exact (Outcome.Agree.refl Note.Alike.refl _).mono fun equal => equal ▸ .same _
    · rw [render_of_other users firstBoot alike]
      exact (Outcome.Agree.refl Note.Alike.refl _).mono fun same => same ▸ .same _

theorem renderRequest_agree (alike : Context.Alike context other) (request : Fields) :
    Outcome.Agree (Note.Alike (HashedIn surroundings salt context other))
      (Stage.Alike (HashedIn surroundings salt context other))
      (renderRequest surroundings context request)
      (renderRequest { surroundings with salt } other request) := by
  unfold renderRequest
  refine (Outcome.Agree.refl Note.Alike.refl _).bind fun {name _} same => ?_
  obtain rfl := same
  refine (Outcome.Agree.refl Note.Alike.refl _).bind fun {parameters _} same => ?_
  obtain rfl := same
  have rendered : Outcome.Agree (Note.Alike (HashedIn surroundings salt context other))
      (Stage.Alike (HashedIn surroundings salt context other))
      (renderStage surroundings context name parameters)
      (renderStage { surroundings with salt } other name parameters) := by
    refine (Outcome.Agree.refl Note.Alike.refl _).bind fun {type _} same => ?_
    obtain rfl := same
    exact render_agree type alike parameters
  refine rendered.bind fun {stage changed} same => ?_
  have announced : Note.Alike (HashedIn surroundings salt context other)
      (renderedNote (batchLogger surroundings) stage)
      (renderedNote (batchLogger surroundings) changed) := by
    rw [renderedNote, renderedNote, same.type_eq]
    exact .refl _
  refine (Outcome.Agree.note announced).bind fun _ => ?_
  refine (Outcome.Agree.note (dumpNote_alike same)).bind fun _ => ?_
  exact .pure same

theorem renderBatch_agree (alike : Context.Alike context other) (requests : List Fields) :
    Outcome.Agree (Note.Alike (HashedIn surroundings salt context other))
      (List.Forall₂ (Stage.Alike (HashedIn surroundings salt context other)))
      (renderBatch surroundings context requests)
      (renderBatch { surroundings with salt } other requests) := by
  rw [renderBatch_eq_mapM, renderBatch_eq_mapM]
  exact .mapM (List.forall₂_same.mpr fun request _ => renderRequest_agree alike request)

end Catalog

end ImageStages
