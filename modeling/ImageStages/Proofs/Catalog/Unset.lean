import ImageStages.Proofs.Account.Provision
import ImageStages.Proofs.Boot.Partition
import ImageStages.Proofs.Catalog.MadeOf

namespace ImageStages

namespace Document

/-- No part of the value is null, nor is a key. -/
def NullFree (value : Document) : Prop :=
  value.Throughout fun part =>
    part ≠ .null ∧ ∀ fields, part = .object fields → ∀ field ∈ fields, field.1 ≠ .null

variable {value : Document}

instance : Scalar.Common (· ≠ Scalar.null) where
  text _ := by simp
  bool _ := by simp
  small _ _ := by simp

theorem MadeOf.nullFree (made : value.MadeOf (· ≠ .null)) : value.NullFree := by
  refine made.mono fun {part} here => ?_
  cases part with
  | scalar scalar =>
      refine ⟨fun same => here (Document.scalar.inj same), fun fields same => ?_⟩
      cases same
  | list items => simp
  | object fields =>
      refine ⟨by simp, ?_⟩
      intro others same field member null
      obtain rfl := Document.object.inj same
      obtain ⟨name, named⟩ := here.texts field member
      rw [null] at named
      cases named

theorem IsTextOrNull.madeOfIfSet (checked : value.IsTextOrNull) :
    value.MadeOfIfSet (· ≠ .null) := by
  rcases checked with rfl | text
  · exact madeOfIfSet_null
  · exact text.madeOf.ifSet

theorem IsIntegerOrNull.madeOfIfSet (checked : value.IsIntegerOrNull) :
    value.MadeOfIfSet (· ≠ .null) := by
  rcases checked with rfl | ⟨scalar, rfl, number⟩
  · exact madeOfIfSet_null
  · refine fun _ => madeOf_scalar_iff.mpr ?_
    rintro rfl
    cases number

end Document

section WellTyped

theorem User.WellTyped.madeOf {user : User} (typed : user.WellTyped) :
    user.MadeOf (· ≠ .null) where
  name := typed.name
  uid := typed.uid.madeOfIfSet
  gid := typed.gid.madeOfIfSet
  description := typed.description.madeOfIfSet
  home := typed.home.madeOfIfSet
  shell := typed.shell.madeOfIfSet
  key := typed.key.madeOfIfSet
  groups groups given group member := (typed.groups groups given group member).madeOf

theorem Services.WellTyped.madeOf {services : Services} (typed : services.WellTyped) :
    services.MadeOf (· ≠ .null) where
  enabled service member := (typed.enabled service member).madeOf
  disabled service member := (typed.disabled service member).madeOf

theorem Firewall.WellTyped.madeOf {firewall : Firewall} (typed : firewall.WellTyped) :
    firewall.MadeOf (· ≠ .null) where
  ports port member := (typed.ports port member).madeOf
  services services given := (typed.services services given).madeOf

theorem Partition.WellTyped.madeOf {partition : Partition} (typed : partition.WellTyped) :
    partition.MadeOf (· ≠ .null) where
  start := by simp
  size := by simp
  type := typed.type.madeOf
  uuid := typed.uuid.madeOf
  filesystem filesystem held := by
    obtain ⟨type, uuid, mountpoint, _⟩ := typed.filesystem filesystem held
    exact ⟨type.madeOf, uuid.madeOf, mountpoint.madeOf⟩

theorem PartitionTable.WellTyped.madeOf {table : PartitionTable} (typed : table.WellTyped) :
    table.MadeOf (· ≠ .null) where
  type := typed.type.madeOf
  uuid := typed.uuid.madeOf
  partitions partition member := (typed.partitions partition member).madeOf
  indices _ _ := by simp

theorem Context.WellTyped.madeOf {context : Context} (typed : context.WellTyped) :
    context.MadeOf (· ≠ .null) where
  arch := by
    obtain ⟨name, named, _⟩ := typed.arch
    exact named ▸ Document.madeOf_text name
  table table planned := (typed.table table planned).madeOf
  customizations := {
    users := fun user member => (typed.customizations.users user member).madeOf
    groups := fun group member => by
      obtain ⟨name, gid⟩ := typed.customizations.groups group member
      exact ⟨name, gid.madeOfIfSet⟩
    firewall := fun firewall given => (typed.customizations.firewall firewall given).madeOf
    services := fun services given => (typed.customizations.services services given).madeOf }
  repositories repository member := (typed.repositories repository member).gpgkey.madeOf

end WellTyped

section Account

/-- A record has the fields that were set, as they were given, and no others. -/
def KeepsSet (given : List (Text × Document)) (record : Fields) : Prop :=
  ∀ field ∈ given, Fields.find? record (.text field.1) =
    if field.2.isUnset then none else some field.2

/-- The fields of a user beside the name and the password. -/
def User.plainFields (user : User) : List (Text × Document) := [
  ("uid", user.uid),
  ("gid", user.gid),
  ("groups", writeSection .list user.groups),
  ("description", user.description),
  ("home", user.home),
  ("shell", user.shell),
  ("key", user.key)]

def Group.plainFields (group : Group) : List (Text × Document) := [
  ("name", group.name),
  ("gid", group.gid)]

theorem keepsSet_setFields (fields : List (Text × Document))
    (distinct : (fields.map Prod.fst).Nodup) : KeepsSet fields (options fields).setFields := by
  intro field member
  have named := Fields.named_options_iff.mpr distinct
  have found : Fields.find? (options fields) (.text field.1) = some field.2 :=
    Fields.find?_of_mem named.distinct (List.mem_map_of_mem member) (by simp)
  rw [Fields.find?_setFields named.distinct, found]
  cases unset : field.2.isUnset <;> simp [Option.filter, unset]

end Account

namespace Account

variable {salt : String} {user : User} {users : List User} {groups : List Group} {group : Group}
  {records options : Fields} {password : Document}

/-- What the record of a user has of the user. -/
structure RecordsUser (user : User) (record : Fields) : Prop where
  plain : KeepsSet user.plainFields record
  password : (Fields.find? record (.text "password")).isSome = !user.password.isUnset

theorem provisionGroup_ok {pair : Scalar × Document}
    (provisioned : provisionGroup group = .ok pair) :
    ∃ key, group.name = .scalar key ∧
      pair = (key, .object (ImageStages.options group.plainFields).setFields) := by
  simp only [provisionGroup, Outcome.lift_mishap, Except.bind_eq_ok_iff,
    Except.mapError_eq_ok_iff, Document.asKey_ok_iff, Except.pure_eq_ok,
    Except.ok.injEq] at provisioned
  obtain ⟨key, spelled, rfl⟩ := provisioned
  exact ⟨key, spelled, rfl⟩

theorem provisionGroup_sameKey {other : Group} {pair final : Scalar × Document}
    (provisioned : provisionGroup group = .ok pair)
    (provisionedOther : provisionGroup other = .ok final) :
    group.name.same other.name = Fields.sameKey pair final := by
  obtain ⟨key, named, rfl⟩ := provisionGroup_ok provisioned
  obtain ⟨otherKey, otherNamed, rfl⟩ := provisionGroup_ok provisionedOther
  rw [named, otherNamed, Document.same]
  rfl

theorem storedPassword_isUnset (stored : (storedPassword salt user).result = .ok password) :
    password.isUnset = user.password.isUnset := by
  rcases storedPassword_ok stored with ⟨given, rfl⟩ | ⟨⟨text, given⟩, other, rfl⟩
  · rw [given]
  · rw [given]
    rfl

theorem userRecord_records (stored : (storedPassword salt user).result = .ok password) :
    ∃ record, userRecord user password = .object record ∧ RecordsUser user record := by
  have kept := keepsSet_setFields [
    ("uid", user.uid), ("gid", user.gid), ("groups", writeSection .list user.groups),
    ("description", user.description), ("home", user.home), ("shell", user.shell),
    ("password", password), ("key", user.key)] (by simp)
  refine ⟨_, rfl, fun field member => kept field ?_, ?_⟩
  · have whole : user.plainFields ⊆ [
        ("uid", user.uid), ("gid", user.gid), ("groups", writeSection .list user.groups),
        ("description", user.description), ("home", user.home), ("shell", user.shell),
        ("password", password), ("key", user.key)] := by
      simp [User.plainFields]
    exact whole member
  · have found := kept ("password", password) (by simp)
    rw [← storedPassword_isUnset stored, found]
    cases password.isUnset <;> rfl

/-- The last user of a name is the one that is recorded. -/
theorem userRecords_find? (recorded : (userRecords salt users).result = .ok records)
    (named : ∀ user ∈ users, user.name.IsText)
    (standing : Standing (fun left right : User => left.name.same right.name) users user) :
    ∃ name record, user.name = .text name ∧
      Fields.find? records (.text name) = some (.object record) ∧ RecordsUser user record := by
  obtain ⟨pairs, each, rfl⟩ := userRecords_ok recorded
  obtain ⟨pair, provisioned, stands⟩ := standing.corresponds each provisionUser_sameKey
  obtain ⟨key, password, spelled, stored, rfl⟩ := provisionUser_ok provisioned
  obtain ⟨name, isText⟩ := named user standing.mem
  obtain rfl : Scalar.text name = key := Document.scalar.inj (isText.symm.trans spelled)
  obtain ⟨record, made, records⟩ := userRecord_records stored
  exact ⟨name, record, isText, made ▸ Fields.find?_ofPairs_of_standing stands (by simp), records⟩

theorem groupsOptions_find? (rendered : groupsOptions groups = .ok options)
    (named : ∀ group ∈ groups, group.name.IsText)
    (standing : Standing (fun left right : Group => left.name.same right.name) groups group) :
    ∃ name record, group.name = .text name ∧
      (Document.object options).reach? ["groups", name] = some (.object record) ∧
      KeepsSet group.plainFields record := by
  simp only [groupsOptions, Except.bind_eq_ok_iff, Except.pure_eq_ok, Except.ok.injEq,
    Except.mapM_eq_ok_iff] at rendered
  obtain ⟨pairs, each, rfl⟩ := rendered
  obtain ⟨pair, provisioned, stands⟩ := standing.corresponds each provisionGroup_sameKey
  obtain ⟨key, spelled, rfl⟩ := provisionGroup_ok provisioned
  obtain ⟨name, isText⟩ := named group standing.mem
  obtain rfl : Scalar.text name = key := Document.scalar.inj (isText.symm.trans spelled)
  have found : Fields.find? (Fields.ofPairs pairs) (.text name) =
      some (.object (ImageStages.options group.plainFields).setFields) :=
    Fields.find?_ofPairs_of_standing stands (by simp)
  refine ⟨name, _, isText, ?_, keepsSet_setFields _ (by simp [Group.plainFields])⟩
  exact (Document.reach?_field (Fields.ofPairs pairs) name).trans found

theorem usersOptions_reach? (records : Fields) (name : Text) :
    (Document.object (usersOptions records)).reach? ["users", name] =
      Fields.find? records (.text name) :=
  Document.reach?_field records name

end Account

namespace Catalog

variable {surroundings : Surroundings} {context : Context} {type : StageType}
  {request fields : Fields} {requests : List Fields} {stage : Stage} {stages : List Stage}

/-- The file that a copy's device is given, if it is given one, is a text. -/
def NamesFile (request : Fields) : Prop :=
  Fields.find? request (.text "type") = some (.text StageType.copy.name) →
    ∀ filename,
      (Document.object request).reach? ["params", "device", "options", "filename"] =
        some filename → filename.IsText

theorem backingFile_isText {device filename : Document}
    (named : ∀ filename, device.reach? ["options", "filename"] = some filename → filename.IsText)
    (backed : Layout.backingFile device = .ok filename) : filename.IsText := by
  simp only [Layout.backingFile, Outcome.lift_mishap, Except.bind_eq_ok_iff,
    Except.mapError_eq_ok_iff] at backed
  obtain ⟨type, _, backed⟩ := backed
  split at backed
  · simp only [Except.bind_eq_ok_iff, Except.mapError_eq_ok_iff,
      Document.lookupOr_ok_iff] at backed
    obtain ⟨_, ⟨⟨fields, rfl⟩, rfl⟩, ⟨options, given⟩, rfl⟩ := backed
    rw [given, Document.fieldOr]
    cases asked : Fields.find? fields (.text "options") with
    | none =>
        rw [Document.fieldOr, asked, Option.getD_none] at given
        obtain rfl := Document.object.inj given
        exact Document.isText_text ""
    | some value =>
        rw [Document.fieldOr, asked, Option.getD_some] at given
        cases found : Fields.find? options (.text "filename") with
        | none => exact Document.isText_text ""
        | some filename =>
            refine named filename ?_
            rw [Document.reach?, asked, Option.bind_some, given, Document.reach?_field, found]
  · cases backed

theorem backedBy_of_namesFile (names : NamesFile request)
    (named : typeName request = .ok StageType.copy.name)
    (read : parametersOf StageType.copy.name request = .ok fields) :
    Parameters.BackedBy (· ≠ .null) ⟨.copy, fields⟩ := by
  intro device filename made backed
  refine (backingFile_isText (fun filename reached => ?_) backed).madeOf
  rcases Parameters.imageDevice_ok_iff.mp made with ⟨device, given, rfl⟩ | ⟨_, path, _, rfl⟩
  · refine names (typeName_ok_iff.mp named).1 filename ?_
    have given : Fields.find? fields (.text "device") = some (.object device) :=
      Parameters.find?_of_given? given
    have params : Fields.find? request (.text "params") = some (.object fields) := by
      unfold parametersOf at read
      split at read
      · cases read
        cases given
      · cases read
        cases given
      · rename_i found
        cases read
        exact found
      · cases read
    rw [Document.reach?, params, Option.bind_some, Document.reach?, given, Option.bind_some,
      reached]
  · obtain rfl : Document.text path = filename := Option.some.inj reached
    exact Document.isText_text path

/-- Only copies have other sections than options. -/
theorem render_sections
    (rendered : (type.render surroundings context fields).result = .ok stage) :
    ∀ key ∈ ["inputs", "devices", "mounts"],
      ((stage.toDocument.reach? [key]).isSome = true ↔ stage.type = StageType.copy.name) := by
  by_cases copy : type = .copy
  · subst copy
    simp only [StageType.render, StageType.renderCopy, Layout.copyStage, Outcome.result_bind,
      Outcome.result_pure, Except.bind_eq_ok_iff, Except.ok.injEq] at rendered
    obtain ⟨_, _, _, _, _, _, _, _, _, _, _, _, rfl⟩ := rendered
    simp only [List.forall_mem_cons, List.not_mem_nil, false_imp_iff, implies_true, and_true]
    exact ⟨iff_of_true rfl rfl, iff_of_true rfl rfl, iff_of_true rfl rfl⟩
  · have other : type.name ≠ StageType.copy.name := by
      cases type <;> first | exact absurd rfl copy | decide
    rw [render_of_ne_copy copy] at rendered
    simp only [Outcome.result_bind, Outcome.result_pure, Except.bind_eq_ok_iff,
      Except.ok.injEq] at rendered
    obtain ⟨options, _, rfl⟩ := rendered
    simp only [List.forall_mem_cons, List.not_mem_nil, false_imp_iff, implies_true, and_true]
    exact ⟨iff_of_false Bool.false_ne_true other, iff_of_false Bool.false_ne_true other,
      iff_of_false Bool.false_ne_true other⟩

/-- What was set stands in a stage, and what was not is nowhere in it. -/
structure OmitsUnset (context : Context) (stage : Stage) : Prop where
  nullFree : stage.toDocument.NullFree
  sections : ∀ key ∈ ["inputs", "devices", "mounts"],
    ((stage.toDocument.reach? [key]).isSome = true ↔ stage.type = StageType.copy.name)
  users : stage.type = StageType.users.name → ∀ user,
    Standing (fun left right : User => left.name.same right.name)
      context.customizations.users user →
    ∃ name record, user.name = .text name ∧
      stage.option? ["users", name] = some (.object record) ∧ Account.RecordsUser user record
  groups : stage.type = StageType.groups.name → ∀ group,
    Standing (fun left right : Group => left.name.same right.name)
      context.customizations.groups group →
    ∃ name record, group.name = .text name ∧
      stage.option? ["groups", name] = some (.object record) ∧
      KeepsSet group.plainFields record

theorem users_recorded (typed : context.WellTyped)
    (rendered : (StageType.users.render surroundings context fields).result = .ok stage) :
    ∀ user, Standing (fun left right : User => left.name.same right.name)
        context.customizations.users user →
      ∃ name record, user.name = .text name ∧
        stage.option? ["users", name] = some (.object record) ∧
        Account.RecordsUser user record := by
  intro user standing
  simp only [StageType.render, StageType.renderOptions, StageType.renderUsers,
    Outcome.result_bind, Outcome.result_pure, Except.bind_eq_ok_iff, Except.ok.injEq] at rendered
  obtain ⟨_, ⟨records, recorded, rfl⟩, rfl⟩ := rendered
  obtain ⟨name, record, named, found, records⟩ := Account.userRecords_find? recorded
    (fun user member => (typed.customizations.users user member).name) standing
  exact ⟨name, record, named, (Account.usersOptions_reach? _ name).trans found, records⟩

theorem groups_recorded (typed : context.WellTyped)
    (rendered : (StageType.groups.render surroundings context fields).result = .ok stage) :
    ∀ group, Standing (fun left right : Group => left.name.same right.name)
        context.customizations.groups group →
      ∃ name record, group.name = .text name ∧
        stage.option? ["groups", name] = some (.object record) ∧
        KeepsSet group.plainFields record := by
  intro group standing
  simp only [StageType.render, StageType.renderOptions, Outcome.result_bind, Outcome.result_lift,
    Outcome.result_pure, Except.bind_eq_ok_iff, Except.ok.injEq] at rendered
  obtain ⟨options, made, rfl⟩ := rendered
  exact Account.groupsOptions_find? made
    (fun group member => (typed.customizations.groups group member).name) standing

/-- No stage of a batch has a null anywhere, only copies have sections of their own, and the
records of accounts keep all that was set. -/
theorem renderBatch_omitsUnset (typed : context.WellTyped)
    (names : ∀ request ∈ requests, NamesFile request)
    (rendered : (renderBatch surroundings context requests).result = .ok stages) :
    ∀ stage ∈ stages, OmitsUnset context stage := by
  have made := renderBatch_madeOf typed.madeOf
    (fun request present named fields read =>
      backedBy_of_namesFile (names request present) named read) rendered
  intro stage member
  obtain ⟨request, present, alone⟩ :=
    exists_related (renderBatch_ok_iff.mp rendered).flip member
  obtain ⟨type, fields, _, _, built⟩ := renderRequest_ok (rendersAlone_iff.mp alone)
  have tagged := render_tag built
  exact {
    nullFree := (made stage member).nullFree
    sections := render_sections built
    users := fun named => by
      obtain rfl := StageType.name_injective (tagged.symm.trans named)
      exact users_recorded typed built
    groups := fun named => by
      obtain rfl := StageType.name_injective (tagged.symm.trans named)
      exact groups_recorded typed built }

/-- A user with the number zero and an empty description, in no groups. -/
def zeroUser : User where
  name := .text "root"
  description := .text ""
  password := .null
  key := .null
  home := .null
  shell := .null
  groups := some []
  uid := .int 0
  gid := .null

def zeroContext : Context where
  arch := .text "x86_64"
  table := some bootLast
  customizations := ⟨[{ zeroUser with uid := .int 1000 }, zeroUser], [⟨.text "wheel", .int 0⟩],
    none, none, none⟩
  repositories := []

def zeroRequests : List Fields := [
  [(.text "type", .text "org.osbuild.users")],
  [(.text "type", .text "org.osbuild.groups")],
  [(.text "type", .text "org.osbuild.copy"), (.text "params", .record [
    ("pipeline", .text "os"),
    ("device", .record [("type", .text "org.osbuild.loopback")])])]]

theorem zeroContext_wellTyped : zeroContext.WellTyped where
  arch := ⟨_, rfl, by decide⟩
  table table planned := Option.some.inj planned ▸ bootLast_wellTyped
  customizations := {
    users := by
      have zero : (Document.int 0).IsIntegerOrNull := .inr ⟨.int 0, rfl, rfl⟩
      have other : (Document.int 1000).IsIntegerOrNull := .inr ⟨.int 1000, rfl, rfl⟩
      intro user member
      simp only [zeroContext, List.mem_cons, List.not_mem_nil, or_false] at member
      rcases member with rfl | rfl
      · exact ⟨⟨_, rfl⟩, .inr ⟨_, rfl⟩, .inl rfl, .inl rfl, .inl rfl, .inl rfl,
          by simp [zeroUser], other, .inl rfl⟩
      · exact ⟨⟨_, rfl⟩, .inr ⟨_, rfl⟩, .inl rfl, .inl rfl, .inl rfl, .inl rfl,
          by simp [zeroUser], zero, .inl rfl⟩
    groups := by
      intro group member
      obtain rfl := List.mem_singleton.mp member
      exact ⟨⟨_, rfl⟩, .inr ⟨.int 0, rfl, rfl⟩⟩
    firewall := by simp [zeroContext]
    services := by simp [zeroContext]
    kernel := by simp [zeroContext] }
  repositories := by simp [zeroContext]

/-- Zero and the empty text stay, and the user who is listed last is the one recorded. -/
theorem renderBatch_omitsUnset_zero :
    ∃ stages, (renderBatch ⟨.builtin, "salt", "token"⟩ zeroContext zeroRequests).result =
        .ok stages ∧
      stages.map Stage.type =
        ["org.osbuild.users", "org.osbuild.groups", "org.osbuild.copy"] ∧
      (∀ stage ∈ stages, stage.toDocument.NullFree) ∧
      ∀ stage ∈ stages, stage.type = "org.osbuild.users" → ∃ record,
        stage.option? ["users", "root"] = some (.object record) ∧
        Fields.find? record (.text "uid") = some (.int 0) ∧
        Fields.find? record (.text "description") = some (.text "") ∧
        Fields.find? record (.text "groups") = none := by
  have names : ∀ request ∈ zeroRequests, NamesFile request := by
    intro request member _ filename reached
    simp only [zeroRequests, List.mem_cons, List.not_mem_nil, or_false] at member
    rcases member with rfl | rfl | rfl <;> cases reached
  have types : (renderBatch ⟨.builtin, "salt", "token"⟩ zeroContext
      zeroRequests).result.toOption.map (·.map Stage.type) =
        some ["org.osbuild.users", "org.osbuild.groups", "org.osbuild.copy"] := by
    decide +kernel
  obtain ⟨stages, rendered, described⟩ := Option.map_eq_some_iff.mp types
  have rendered := Except.eq_ok_of_toOption rendered
  have omits := renderBatch_omitsUnset zeroContext_wellTyped names rendered
  refine ⟨stages, rendered, described, fun stage member => (omits stage member).nullFree, ?_⟩
  intro stage member named
  obtain ⟨name, record, spelled, found, records⟩ :=
    (omits stage member).users named zeroUser
      ⟨[{ zeroUser with uid := .int 1000 }], [], rfl, by simp⟩
  obtain rfl : "root" = name := by simpa [zeroUser] using spelled
  refine ⟨record, found, records.plain ("uid", .int 0) (by simp [User.plainFields, zeroUser]),
    records.plain ("description", .text "") (by simp [User.plainFields, zeroUser]),
    records.plain ("groups", .list []) (by simp [User.plainFields, zeroUser, writeSection])⟩

end Catalog

end ImageStages
