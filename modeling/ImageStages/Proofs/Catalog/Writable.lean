import ImageStages.Proofs.Catalog.MadeOf
import ImageStages.Proofs.Stage.Writable

namespace ImageStages

/-- The sections of a blueprint that stages take values from can be written, and accounts
are named by texts. -/
structure Customizations.Writable (customizations : Customizations) : Prop where
  users : ∀ user ∈ customizations.users, user.toDocument.Writable ∧ user.name.IsText
  groups : ∀ group ∈ customizations.groups, group.toDocument.Writable ∧ group.name.IsText
  firewall : ∀ firewall, customizations.firewall = some firewall →
    firewall.toDocument.Writable
  services : ∀ services, customizations.services = some services →
    services.toDocument.Writable

/-- The values of the context can be written, and so can an index of a partition. -/
structure Context.Writable (context : Context) : Prop where
  arch : context.arch.Writable
  table : ∀ table, context.table = some table →
    table.toDocument.Writable ∧ table.partitions.length ≤ 10 ^ Json.integerDigitLimit
  customizations : context.customizations.Writable
  repositories : ∀ repository ∈ context.repositories, repository.toDocument.Writable

theorem Context.Writable.madeOf {context : Context} (writable : context.Writable) :
    context.MadeOf Scalar.Exact where
  arch := Document.writable_iff_madeOf.mp writable.arch
  table table planned := by
    obtain ⟨exact, short⟩ := writable.table table planned
    exact PartitionTable.madeOf_of_writable exact short
  customizations := {
    users := fun user member => by
      obtain ⟨fields, named⟩ := writable.customizations.users user member
      exact User.madeOf_of_writable fields named
    groups := fun group member => by
      obtain ⟨fields, named⟩ := writable.customizations.groups group member
      exact Group.madeOf_of_writable fields named
    firewall := fun firewall given =>
      Firewall.madeOf_of_writable (writable.customizations.firewall firewall given)
    services := fun services given =>
      Services.madeOf_of_writable (writable.customizations.services services given) }
  repositories repository member := by
    have fields := (Document.writable_record_iff.mp (writable.repositories repository member)).2
    exact Document.writable_iff_madeOf.mp (fields ("gpgkey", repository.gpgkey) (by simp))

namespace Catalog

variable {surroundings : Surroundings} {context : Context} {type : StageType}
  {fields : Fields} {requests : List Fields} {stages : List Stage} {device filename : Document}

theorem imageDevice_writable (given : (Document.object fields).Writable)
    (made : StageType.imageDevice ⟨type, fields⟩ = .ok device) : device.Writable := by
  rcases Parameters.imageDevice_ok_iff.mp made with
    ⟨device, found, rfl⟩ | ⟨_, path, _, rfl⟩
  · exact given.of_find? (Parameters.find?_of_given? found)
  · have zero : (Document.int 0).MadeOf Scalar.Exact := Document.madeOf_small (by decide)
    exact Document.writable_iff_madeOf.mpr
      (Layout.loopback_madeOf_iff.mpr ⟨Document.madeOf_text path, zero, zero⟩)

theorem backingFile_writable (writable : device.Writable)
    (backed : Layout.backingFile device = .ok filename) : filename.Writable := by
  simp only [Layout.backingFile, Outcome.lift_mishap, Except.bind_eq_ok_iff,
    Except.mapError_eq_ok_iff] at backed
  obtain ⟨type, _, backed⟩ := backed
  split at backed
  · simp only [Except.bind_eq_ok_iff, Except.mapError_eq_ok_iff,
      Document.lookupOr_ok_iff] at backed
    obtain ⟨_, ⟨_, rfl⟩, _, rfl⟩ := backed
    exact (writable.fieldOr _ Document.writable_empty).fieldOr _ (Document.writable_text _)
  · cases backed

theorem parametersOf_writable {name : Text} {request : Fields}
    (given : (Document.object request).Writable)
    (read : parametersOf name request = .ok fields) : (Document.object fields).Writable := by
  unfold parametersOf at read
  split at read
  · obtain rfl := Except.ok.inj read
    exact Document.writable_empty
  · obtain rfl := Except.ok.inj read
    exact Document.writable_empty
  · rename_i found
    obtain rfl := Except.ok.inj read
    exact given.of_find? found
  · cases read

/-- Whatever stages a batch renders to, they can be written. -/
theorem renderBatch_writable (writable : context.Writable)
    (given : ∀ request ∈ requests, (Document.object request).Writable)
    (rendered : (renderBatch surroundings context requests).result = .ok stages) :
    (Document.list (stages.map Stage.toDocument)).Writable := by
  rw [Document.writable_list_iff, List.forall_mem_map]
  intro stage member
  refine Document.writable_iff_madeOf.mpr
    (renderBatch_madeOf writable.madeOf ?_ rendered stage member)
  intro request present _ fields read device filename made backed
  have parameters := parametersOf_writable (given request present) read
  exact Document.writable_iff_madeOf.mp
    (backingFile_writable (imageDevice_writable parameters made) backed)

end Catalog

end ImageStages
