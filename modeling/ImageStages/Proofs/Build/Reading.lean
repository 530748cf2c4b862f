import ImageStages.Build.Request
import ImageStages.Proofs.Blueprint.Reading
import ImageStages.Proofs.Layout.Reading

namespace ImageStages

namespace BuildRequest

variable {data : Document} {request : BuildRequest}

/-- The customizations of a request, which are empty where none are given. -/
abbrev blueprint (data : Document) : Document :=
  (data.fieldOr "customizations" .null).orElse (.object [])

structure Shaped (data : Document) : Prop where
  object : data.IsObject
  arch : ∃ name, data.fieldOr "arch" .null = .text name ∧ name ≠ []
  table : (data.fieldOr "partition_table" .null).given = true →
    PartitionTable.Shaped (data.fieldOr "partition_table" .null)
  customizations : Customizations.Shaped (blueprint data)
  repositories : ∃ items, (data.fieldOr "repos" (.list [])).items = .ok items ∧
    ∀ item ∈ items, Repository.Shaped item
  stages : ∃ stages : List Fields, data.fieldOr "stages" (.list []) = .list (stages.map .object)

/-- The context has the declared types, and the lists in it are lists of the document. -/
structure Sound (data : Document) (request : BuildRequest) : Prop where
  typed : request.context.WellTyped
  literal : Customizations.Literal (blueprint data) request.context.customizations

/-- How a request comes from a document. -/
structure ReadFrom (data : Document) (request : BuildRequest) : Prop where
  object : data.IsObject
  given : (data.fieldOr "arch" .null).given = true
  arch : data.fieldOr "arch" .null = request.context.arch
  table : readGiven PartitionTable.ofDocument (data.fieldOr "partition_table" .null) =
    .ok request.context.table
  customizations : Customizations.ofDocument (blueprint data) =
    .ok request.context.customizations
  repositories : ∃ items, (data.fieldOr "repos" (.list [])).items = .ok items ∧
    List.Forall₂ (fun item repository => Repository.ofDocument item = .ok repository) items
      request.context.repositories
  stages : data.fieldOr "stages" (.list []) = .list (request.stages.map .object)

theorem objects_iff {items : List Document} {stages : List Fields} :
    items.all (·.fields?.isSome) = true ∧ items.filterMap Document.fields? = stages ↔
      items = stages.map .object := by
  induction items generalizing stages with
  | nil => cases stages <;> simp
  | cons item items ih =>
      cases item with
      | object fields =>
          cases stages with
          | nil => simp [Document.fields?]
          | cons stage stages => simp [Document.fields?, ← ih, and_left_comm]
      | _ => cases stages <;> simp [Document.fields?]

theorem readStages_ok_iff {fields : Fields} {stages : List Fields} :
    readStages fields = .ok stages ↔
      (Document.object fields).fieldOr "stages" (.list []) = .list (stages.map .object) := by
  change readStages fields = .ok stages ↔ (field? fields "stages").getD (.list []) = _
  cases found : (field? fields "stages").getD (.list []) with
  | list items =>
      rw [Document.list.injEq, ← objects_iff]
      cases all : items.all (·.fields?.isSome) <;> simp [readStages, found, all]
  | _ => simp [readStages, found]

theorem readContext_ok_iff {fields : Fields} {arch : Document} {context : Context} :
    readContext arch fields = .ok context ↔
      arch = context.arch ∧
        readGiven PartitionTable.ofDocument
            ((Document.object fields).fieldOr "partition_table" .null) = .ok context.table ∧
        Customizations.ofDocument (blueprint (.object fields)) = .ok context.customizations ∧
        ∃ items, ((Document.object fields).fieldOr "repos" (.list [])).items = .ok items ∧
          List.Forall₂ (fun item repository => Repository.ofDocument item = .ok repository)
            items context.repositories := by
  obtain ⟨known, table, customizations, repositories⟩ := context
  simp only [readContext, readRepositories, Except.bind_eq_ok_iff, Except.pure_eq_ok,
    Except.ok.injEq, Except.mapM_eq_ok_iff, Context.mk.injEq]
  constructor
  · rintro ⟨_, planned, _, customized, _, ⟨items, yields, each⟩, named, rfl, rfl, rfl⟩
    exact ⟨named, planned, customized, items, yields, each⟩
  · rintro ⟨named, planned, customized, items, yields, each⟩
    exact ⟨_, planned, _, customized, _, ⟨items, yields, each⟩, named, rfl, rfl, rfl⟩

theorem readArch_ok_iff {fields : Fields} {arch : Document} :
    readArch fields = .ok arch ↔
      ((Document.object fields).fieldOr "arch" .null).given = true ∧
        (Document.object fields).fieldOr "arch" .null = arch := by
  change readArch fields = .ok arch ↔
    ((field? fields "arch").getD .null).given = true ∧ (field? fields "arch").getD .null = arch
  cases given : ((field? fields "arch").getD .null).given <;> simp [readArch, given]

theorem ofDocument_ok_iff : ofDocument data = .ok request ↔ ReadFrom data request := by
  obtain ⟨context, stages⟩ := request
  cases data with
  | object fields =>
      simp only [ofDocument, Except.bind_eq_ok_iff, Except.mapError_eq_ok_iff,
        readArch_ok_iff, readContext_ok_iff, readStages_ok_iff, Except.pure_eq_ok,
        Except.ok.injEq, BuildRequest.mk.injEq]
      constructor
      · rintro ⟨_, ⟨given, named⟩, _, ⟨rfl, planned, customized, repositories⟩, _, listed, rfl,
          rfl⟩
        exact ⟨⟨fields, rfl⟩, given, named, planned, customized, repositories, listed⟩
      · intro parts
        obtain ⟨_, given, named, planned, customized, repositories, listed⟩ := parts
        exact ⟨_, ⟨given, named⟩, _, ⟨rfl, planned, customized, repositories⟩, _, listed, rfl,
          rfl⟩
  | _ =>
      constructor
      · intro read
        cases read
      · intro parts
        obtain ⟨_, absurd⟩ := parts.object
        cases absurd

theorem ofDocument_of_shaped (shaped : Shaped data) :
    ∃ request, ofDocument data = .ok request := by
  obtain ⟨name, named, filled⟩ := shaped.arch
  have given : (data.fieldOr "arch" .null).given = true := by
    simp [named, Document.given, Scalar.given, filled]
  obtain ⟨table, planned⟩ := readGiven_succeeds fun given =>
    PartitionTable.ofDocument_of_shaped (shaped.table given)
  obtain ⟨customizations, customized⟩ :=
    Customizations.ofDocument_of_shaped shaped.customizations
  obtain ⟨items, yields, shapes⟩ := shaped.repositories
  obtain ⟨repositories, read⟩ := Except.mapM_succeeds_iff.mpr fun item member =>
    Repository.ofDocument_of_shaped (shapes item member)
  obtain ⟨stages, listed⟩ := shaped.stages
  exact ⟨⟨⟨_, table, customizations, repositories⟩, stages⟩, ofDocument_ok_iff.mpr {
    object := shaped.object
    given
    arch := rfl
    table := planned
    customizations := customized
    repositories := ⟨items, yields, Except.mapM_eq_ok_iff.mp read⟩
    stages := listed }⟩

theorem sound_iff (read : ofDocument data = .ok request) : Sound data request ↔ Shaped data := by
  obtain ⟨object, given, named, planned, customized, ⟨items, yields, each⟩, listed⟩ :=
    ofDocument_ok_iff.mp read
  have table := readGiven_forall_iff planned PartitionTable.wellTyped_iff
  have customizations := Customizations.literal_iff customized
  have repositories := forall_mem_iff_of_read each Repository.wellTyped_iff
  constructor
  · intro sound
    obtain ⟨typed, literal⟩ := sound
    exact {
      object
      arch := named ▸ typed.arch
      table := table.mp typed.table
      customizations := customizations.mp ⟨typed.customizations, literal⟩
      repositories := ⟨items, yields, repositories.mp typed.repositories⟩
      stages := ⟨_, listed⟩ }
  · intro shaped
    obtain ⟨customizationsTyped, literal⟩ := customizations.mpr shaped.customizations
    obtain ⟨others, same, shapes⟩ := shaped.repositories
    obtain rfl : items = others := Except.ok.inj (yields.symm.trans same)
    have typed : request.context.WellTyped := {
      arch := named ▸ shaped.arch
      table := table.mpr shaped.table
      customizations := customizationsTyped
      repositories := repositories.mpr shapes }
    exact ⟨typed, literal⟩

/-- A document is accepted with a sound context exactly if it has the shape of a request.
What is accepted of any other shape is unsound. -/
theorem accepted_soundly_iff (data : Document) :
    ((∃ request, ofDocument data = .ok request ∧ Sound data request) ↔ Shaped data) ∧
      ∀ request, ofDocument data = .ok request → (Sound data request ↔ Shaped data) := by
  refine ⟨?_, fun request => sound_iff⟩
  constructor
  · intro accepted
    obtain ⟨request, read, sound⟩ := accepted
    exact (sound_iff read).mp sound
  · intro shaped
    obtain ⟨request, read⟩ := ofDocument_of_shaped shaped
    exact ⟨request, read, (sound_iff read).mpr shaped⟩

/-- The services to enable are given as one text. -/
def serviceText : Document := .record [
  ("arch", .text "x86_64"),
  ("customizations", .record [("services", .record [("enabled", .text "sshd")])])]

/-- The document is accepted, and its one service becomes four. -/
theorem serviceText_spells :
    ∃ request, ofDocument serviceText = .ok request ∧
      request.context.customizations.services =
        some ⟨[.text "s", .text "s", .text "h", .text "d"], []⟩ ∧
      ¬ Sound serviceText request := by
  refine ⟨_, rfl, rfl, ?_⟩
  intro sound
  have enabled := (sound.literal.services _ rfl).enabled
  cases enabled

/-- A number without end in a partition table, met before anything is refused. -/
def Overflows (data : Document) : Prop :=
  data.IsObject ∧ (data.fieldOr "arch" .null).given = true ∧
    PartitionTable.Overflows (data.fieldOr "partition_table" .null)

/-- The failure is the refusal of a request. -/
def IsRefusal (failure : Failure) : Prop :=
  ∃ message field, failure = .invalid (.request message field)

@[simp] theorem isRefusal_badRequest (message : Text) (field : Option String) :
    IsRefusal (.badRequest message field) :=
  ⟨_, _, rfl⟩

@[simp] theorem ofMishap_isRefusal_iff {mishap : Mishap} :
    IsRefusal (ofMishap mishap) ↔ mishap.IsExcused := by
  cases family : mishap.family <;>
    simp [ofMishap, malformed, Failure.badRequest, IsRefusal, Mishap.IsExcused, family]

theorem readTable_eq (fields : Fields) :
    readTable fields = readGiven PartitionTable.ofDocument
      ((Document.object fields).fieldOr "partition_table" .null) :=
  rfl

theorem escapes_readContext_iff {fields : Fields} {arch : Document} :
    Escapes (readContext arch fields) ↔
      PartitionTable.Overflows ((Document.object fields).fieldOr "partition_table" .null) := by
  have table : Escapes (readTable fields) ↔
      PartitionTable.Overflows ((Document.object fields).fieldOr "partition_table" .null) := by
    rw [readTable_eq, escapes_readGiven_iff, PartitionTable.escapes_ofDocument_iff]
    exact and_iff_right_of_imp PartitionTable.Overflows.given
  rw [← table]
  simp [readContext, readCustomizations, readRepositories,
    Customizations.not_escapes_ofDocument, not_escapes_mapM Repository.not_escapes_ofDocument]

theorem ofDocument_of_overflows (overflows : Overflows data) :
    ofDocument data = .error (.mishap .infinite) := by
  obtain ⟨⟨fields, rfl⟩, given, endless⟩ := overflows
  have arch := readArch_ok_iff.mpr ⟨given, rfl⟩
  have table : readTable fields = .error .infinite := by
    rw [readTable_eq, readGiven, endless.given, if_pos rfl,
      PartitionTable.ofDocument_of_overflows endless]
    rfl
  simp [ofDocument, arch, readContext, table, ofMishap, Mishap.family]

theorem readArch_refuses {fields : Fields} :
    ¬ FailsWith (fun failure => ¬ IsRefusal failure) (readArch fields) := by
  cases given : ((field? fields "arch").getD .null).given <;> simp [readArch, given]

theorem readStages_refuses {fields : Fields} :
    ¬ FailsWith (fun failure => ¬ IsRefusal failure) (readStages fields) := by
  unfold readStages badStages
  split
  · split <;> simp
  · simp

theorem ofDocument_unrefused_iff :
    FailsWith (fun failure => ¬ IsRefusal failure) (ofDocument data) ↔ Overflows data := by
  constructor
  · intro failed
    cases data with
    | object fields =>
        simp only [ofDocument, failsWith_bind, failsWith_mapError, ofMishap_isRefusal_iff,
          readArch_refuses, readStages_refuses, escapes_readContext_iff, false_or,
          Except.pure_eq_ok, not_failsWith_ok, and_false, exists_false, or_false] at failed
        obtain ⟨_, given, endless⟩ := failed
        exact ⟨⟨fields, rfl⟩, (readArch_ok_iff.mp given).1, endless⟩
    | _ => simp [ofDocument] at failed
  · intro overflows
    rw [ofDocument_of_overflows overflows]
    simp [IsRefusal]

/-- Unless a partition table holds a number without end, a document becomes a request or is
refused.  The stages of a request are objects of the document. -/
theorem accepted_or_refused_iff (data : Document) :
    (((∃ request, ofDocument data = .ok request) ∨
        ∃ message field, ofDocument data = .error (.invalid (.request message field))) ↔
      ¬ Overflows data) ∧
    (Overflows data → ofDocument data = .error (.mishap .infinite)) ∧
    ∀ request, ofDocument data = .ok request →
      data.fieldOr "stages" (.list []) = .list (request.stages.map .object) := by
  refine ⟨?_, ofDocument_of_overflows, fun request read => (ofDocument_ok_iff.mp read).stages⟩
  rw [← ofDocument_unrefused_iff]
  cases read : ofDocument data with
  | ok request => simp
  | error failure => simp [IsRefusal]

/-- The first partition starts at a number that is too large for any float. -/
def endlessStart : Document := .record [
  ("arch", .text "x86_64"),
  ("partition_table", .record [
    ("partitions", .list [.record [("start", .real (.infinite false))]])])]

/-- The document is neither accepted nor refused. -/
theorem endlessStart_escapes :
    ofDocument endlessStart = .error (.mishap .infinite) ∧ ¬ IsRefusal (.mishap .infinite) := by
  refine ⟨rfl, ?_⟩
  simp [IsRefusal]

end BuildRequest

end ImageStages
