import ImageStages.Account.Provision
import ImageStages.Proofs.Document.Keys
import ImageStages.Proofs.Document.Uses

namespace ImageStages.Account

variable {salt : String} {user : User} {users : List User} {failure : Failure}

/-- There is no password, or a hash, or a plain password that can be hashed. -/
def Storable (password : Document) : Prop :=
  password = .null ∨
    ∃ text, password = .text text ∧ (isHash text = true ∨ refusal? text = none)

/-- A plain password that cannot be hashed. -/
def Unhashable (password : Document) (reason : Text) : Prop :=
  ∃ text, password = .text text ∧ isHash text = false ∧ refusal? text = some reason

theorem storedPassword_succeeds_iff (salt : String) :
    (∃ stored, (storedPassword salt user).result = .ok stored) ↔ Storable user.password := by
  cases given : user.password with
  | scalar scalar =>
      cases scalar with
      | null => simp [storedPassword, given, Document.isNull, Storable]
      | text text =>
          cases hashed : isHash text <;> cases refused : refusal? text <;>
            simp [storedPassword, given, Document.isNull, isHashOf, hash, Storable, hashed, refused]
      | _ => simp [storedPassword, given, Document.isNull, isHashOf, Storable]
  | _ => simp [storedPassword, given, Document.isNull, isHashOf, Storable]

theorem storedPassword_strays_iff (salt : String) :
    Strays (storedPassword salt user).result ↔
      user.password ≠ .null ∧ ¬ user.password.IsText := by
  cases given : user.password with
  | scalar scalar =>
      cases scalar with
      | null => simp [storedPassword, given, Document.isNull]
      | text text =>
          cases hashed : isHash text <;> cases refused : refusal? text <;>
            simp [storedPassword, given, Document.isNull, isHashOf, hash, hashed, refused]
      | _ => simp [storedPassword, given, Document.isNull, isHashOf, Document.IsText]
  | _ => simp [storedPassword, given, Document.isNull, isHashOf, Document.IsText]

theorem storedPassword_error_iff (salt : String)
    (checked : user.password = .null ∨ user.password.IsText) :
    (storedPassword salt user).result = .error failure ↔
      ∃ reason, Unhashable user.password reason ∧
        failure = .invalid (.password user.name (.text reason)) := by
  rcases checked with given | ⟨text, given⟩
  · simp [storedPassword, given, Document.isNull, Unhashable]
  · cases hashed : isHash text <;> cases refused : refusal? text <;>
      simp [storedPassword, given, Document.isNull, isHashOf, hash, hashed, refused, Unhashable,
        eq_comm (b := failure)]

def Provisionable (user : User) : Prop :=
  Storable user.password ∧ user.name.IsScalar

theorem provisionUser_succeeds_iff :
    (∃ record, (provisionUser salt user).result = .ok record) ↔ Provisionable user := by
  rw [Provisionable, ← storedPassword_succeeds_iff salt]
  simp [provisionUser, Except.bind_eq_ok_iff, Document.asKey_ok_iff, Document.IsScalar]

theorem provisionUser_strays_iff :
    Strays (provisionUser salt user).result ↔
      (user.password ≠ .null ∧ ¬ user.password.IsText) ∨
      (Storable user.password ∧ ¬ user.name.IsScalar) := by
  rw [← storedPassword_strays_iff salt, ← storedPassword_succeeds_iff salt]
  simp [provisionUser]

theorem provisionUser_error_iff (checked : user.password = .null ∨ user.password.IsText)
    (named : user.name.IsText) :
    (provisionUser salt user).result = .error failure ↔
      ∃ reason, Unhashable user.password reason ∧
        failure = .invalid (.password user.name (.text reason)) := by
  obtain ⟨name, given⟩ := named
  rw [← storedPassword_error_iff salt checked]
  simp [provisionUser, Except.bind_eq_error_iff, given, Document.asKey]

/-- The first user that cannot be provisioned, because of its password or its name. -/
def UserTrips (users : List User) : Prop :=
  ∃ before user after, users = before ++ user :: after ∧
    (∀ earlier ∈ before, Provisionable earlier) ∧
    ((user.password ≠ .null ∧ ¬ user.password.IsText) ∨
      (Storable user.password ∧ ¬ user.name.IsScalar))

theorem userRecords_strays_iff (salt : String) :
    Strays (userRecords salt users).result ↔ UserTrips users := by
  simp only [userRecords, Outcome.result_bind, Outcome.result_pure, Outcome.result_mapM,
    failsWith_bind, not_failsWith_ok, and_false, exists_false, or_false, failsWith_mapM_iff,
    provisionUser_succeeds_iff, provisionUser_strays_iff, UserTrips]

theorem userRecords_succeeds_iff (salt : String) :
    (∃ records, (userRecords salt users).result = .ok records) ↔
      ∀ user ∈ users, Provisionable user := by
  have each : (∃ pairs, users.mapM (fun user => (provisionUser salt user).result) = .ok pairs) ↔
      ∀ user ∈ users, Provisionable user := by
    simp only [Except.mapM_succeeds_iff, provisionUser_succeeds_iff]
  simp only [← each, userRecords, Outcome.result_bind, Outcome.result_pure, Outcome.result_mapM,
    Except.bind_eq_ok_iff, Except.ok.injEq]
  constructor
  · intro succeeded
    obtain ⟨_, pairs, completed, _⟩ := succeeded
    exact ⟨pairs, completed⟩
  · intro made
    obtain ⟨pairs, completed⟩ := made
    exact ⟨_, pairs, completed, rfl⟩

theorem userRecords_error_iff
    (checked : ∀ user ∈ users, user.password = .null ∨ user.password.IsText)
    (named : ∀ user ∈ users, user.name.IsText) :
    (userRecords salt users).result = .error failure ↔
      ∃ before user after reason, users = before ++ user :: after ∧
        (∀ earlier ∈ before, Storable earlier.password) ∧
        Unhashable user.password reason ∧
        failure = .invalid (.password user.name (.text reason)) := by
  simp only [userRecords, Outcome.result_bind, Outcome.result_pure, Outcome.result_mapM,
    Except.bind_eq_error_iff, reduceCtorEq, and_false, exists_false, or_false,
    Except.mapM_eq_error_iff, provisionUser_succeeds_iff]
  constructor
  · intro refused
    obtain ⟨before, user, after, rfl, provisioned, failed⟩ := refused
    obtain ⟨reason, unhashable, rfl⟩ := (provisionUser_error_iff (checked user (by simp))
      (named user (by simp))).mp failed
    exact ⟨before, user, after, reason, rfl,
      fun earlier member => (provisioned earlier member).1, unhashable, rfl⟩
  · intro cause
    obtain ⟨before, user, after, reason, rfl, storable, unhashable, rfl⟩ := cause
    refine ⟨before, user, after, rfl, ?_, ?_⟩
    · intro earlier member
      exact ⟨storable earlier member, (named earlier (by simp [member])).isScalar⟩
    · exact (provisionUser_error_iff (checked user (by simp)) (named user (by simp))).mpr
        ⟨reason, unhashable, rfl⟩

theorem groupsOptions_strays_iff {groups : List Group} :
    Strays (groupsOptions groups) ↔ ∃ group ∈ groups, ¬ group.name.IsScalar := by
  have sorted : ∀ {group : Group} {failure}, provisionGroup group = .error failure →
      failure.IsStray := by
    intro group failure failed
    cases given : group.name <;> simp [provisionGroup, Document.asKey, given] at failed
    all_goals exact failed ▸ trivial
  simp [groupsOptions, failsWith_mapM_of_sorted sorted, provisionGroup]

theorem groupsOptions_succeeds {groups : List Group}
    (named : ∀ group ∈ groups, group.name.IsScalar) :
    ∃ options, groupsOptions groups = .ok options := by
  obtain ⟨records, completed⟩ : ∃ records, groups.mapM provisionGroup = .ok records := by
    refine Except.mapM_succeeds_iff.mpr fun group member => ?_
    obtain ⟨name, given⟩ := named group member
    simp [provisionGroup, Document.asKey, given]
  simp [groupsOptions, completed]

/-- A key is read from a record as its user gave it, null if it was never set. -/
theorem lookupOr_userRecord (user : User) (password : Document) :
    (userRecord user password).lookupOr "key" .null =
      .ok (if user.key.isUnset then .null else user.key) := by
  have distinct : Fields.Distinct (options [
      ("uid", user.uid), ("gid", user.gid), ("groups", writeSection .list user.groups),
      ("description", user.description), ("home", user.home), ("shell", user.shell),
      ("password", password), ("key", user.key)]) := by
    simp [Fields.Distinct, Fields.sameKey, options]
  have found := Fields.find?_setFields distinct (.text "key")
  simp only [userRecord, Document.lookupOr, Document.lookup, Document.members, Except.map, found]
  cases unset : user.key.isUnset <;> simp [options, Fields.find?, Option.filter, unset]

theorem recordCommands_trips_iff {name : Scalar} {record key : Document}
    (given : record.lookupOr "key" .null = .ok key) :
    Trips (recordCommands (name, record)) ↔
      key.given = true ∧ ¬ ((Document.scalar name).IsText ∧ key.IsText) := by
  cases asked : key.given with
  | false => simp [recordCommands, given, asked]
  | true =>
      cases name with
      | text name =>
          cases key with
          | scalar key =>
              cases key <;> simp [recordCommands, given, asked, Document.IsText]
          | _ => simp [recordCommands, given, asked, Document.IsText]
      | _ => simp [recordCommands, given, asked, Document.IsText]

theorem isText_congr {left right : Scalar} (same : left.same right = true) :
    (Document.scalar left).IsText ↔ (Document.scalar right).IsText := by
  constructor
  · intro holds
    obtain ⟨text, spelled⟩ := holds
    obtain rfl := Document.scalar.inj spelled
    exact ⟨text, by rw [Scalar.eq_of_text_same same]⟩
  · intro known
    obtain ⟨text, spelled⟩ := known
    obtain rfl := Document.scalar.inj spelled
    exact ⟨text, by rw [Scalar.eq_of_text_same (Scalar.same_symm same)]⟩

theorem recordCommands_trips_congr {left right : Scalar} {record : Document}
    (same : left.same right = true) :
    Trips (recordCommands (left, record)) ↔ Trips (recordCommands (right, record)) := by
  cases given : record.lookupOr "key" .null with
  | error cause => simp [recordCommands, given]
  | ok key =>
      rw [recordCommands_trips_iff given, recordCommands_trips_iff given, isText_congr same]

theorem provisionUser_ok {pair : Scalar × Document}
    (provisioned : (provisionUser salt user).result = .ok pair) :
    ∃ name password, user.name = .scalar name ∧
      (storedPassword salt user).result = .ok password ∧
      pair = (name, userRecord user password) := by
  simp only [provisionUser, Outcome.result_bind, Outcome.result_lift_mishap, Outcome.result_pure,
    Except.bind_eq_ok_iff, Except.mapError_eq_ok_iff, Document.asKey_ok_iff,
    Except.ok.injEq] at provisioned
  obtain ⟨password, stored, name, named, rfl⟩ := provisioned
  exact ⟨name, password, named, stored, rfl⟩

/-- The records are made of the pairs of all users. -/
theorem userRecords_ok {records : Fields}
    (recorded : (userRecords salt users).result = .ok records) :
    ∃ pairs, List.Forall₂ (fun user pair => (provisionUser salt user).result = .ok pair)
      users pairs ∧ records = Fields.ofPairs pairs := by
  simp only [userRecords, Outcome.result_bind, Outcome.result_mapM, Outcome.result_pure,
    Except.bind_eq_ok_iff, Except.ok.injEq, Except.mapM_eq_ok_iff] at recorded
  obtain ⟨pairs, each, rfl⟩ := recorded
  exact ⟨pairs, each, rfl⟩

/-- Pairs have the same key where their users have the same name. -/
theorem provisionUser_sameKey {other : User} {pair final : Scalar × Document}
    (provisioned : (provisionUser salt user).result = .ok pair)
    (provisionedOther : (provisionUser salt other).result = .ok final) :
    user.name.same other.name = Fields.sameKey pair final := by
  obtain ⟨name, _, named, _, rfl⟩ := provisionUser_ok provisioned
  obtain ⟨otherName, _, otherNamed, _, rfl⟩ := provisionUser_ok provisionedOther
  rw [named, otherNamed, Document.same]
  rfl

/-- The record that counts for its name asks for a key that no command can add. -/
def KeyTrips (users : List User) : Prop :=
  ∃ user, Standing (fun left right : User => left.name.same right.name) users user ∧
    user.key.given = true ∧ ¬ (user.name.IsText ∧ user.key.IsText)

theorem userRecord_trips_iff {name : Scalar} (password : Document)
    (named : user.name = .scalar name) :
    Trips (recordCommands (name, userRecord user password)) ↔
      user.key.given = true ∧ ¬ (user.name.IsText ∧ user.key.IsText) := by
  rw [recordCommands_trips_iff (lookupOr_userRecord user password), named]
  cases unset : user.key.isUnset with
  | false => simp
  | true =>
      have absent : Document.null.given = false := rfl
      simp [Document.given_of_isUnset unset, absent]

theorem firstBootOptions_trips_iff {records : Fields}
    (provisioned : (userRecords salt users).result = .ok records) :
    Trips (firstBootOptions records) ↔ KeyTrips users := by
  obtain ⟨pairs, each, rfl⟩ := userRecords_ok provisioned
  have commands : Trips (firstBootOptions (Fields.ofPairs pairs)) ↔
      ∃ entry ∈ Fields.ofPairs pairs, Trips (recordCommands entry) := by
    simp only [firstBootOptions, firstBootCommands, failsWith_bind, Except.pure_eq_ok,
      not_failsWith_ok, and_false, exists_false, or_false, trips_mapM_iff]
  -- Of the users with one name the last counts, whatever the spelling of the first.
  have counted := Fields.exists_mem_ofPairs_iff pairs
    (fun name record => Trips (recordCommands (name, record))) recordCommands_trips_congr
  rw [commands, counted, KeyTrips]
  refine (exists_standing_iff each provisionUser_sameKey ?_).symm
  intro user pair provisioned
  obtain ⟨name, password, named, _, rfl⟩ := provisionUser_ok provisioned
  exact (userRecord_trips_iff password named).symm

end ImageStages.Account
