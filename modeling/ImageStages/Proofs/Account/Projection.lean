import ImageStages.Proofs.Blueprint.Reading
import ImageStages.Proofs.Catalog.Unset
import ImageStages.Proofs.Document.Restored

namespace ImageStages

/-! Records of users as a projection.

Of each name the last user is recorded, at the place of the first, with what was set and a
password that is a hash.  Records are read back as users whose records they are again, since
what is unset is left out and a hash is not hashed again. -/

namespace Account

variable {salt : String} {user : User} {users : List User} {password : Document}
  {records : Fields} {failure : Failure} {name : Text}

section Password

/-- The text begins like a hash of an accepted kind. -/
def IsMarked (text : Text) : Prop :=
  ∃ mark ∈ acceptedMarks, Text.ofString mark <+: text

theorem isHash_iff {text : Text} : isHash text = true ↔ IsMarked text := by
  simp [isHash, IsMarked]

theorem isMarked_crypt (salt plain : String) : IsMarked (Digest.crypt salt plain) := by
  refine ⟨"$6$", by decide, ?_⟩
  rw [Digest.crypt, Digest.cryptMark, String.append_assoc, String.append_assoc,
    Text.ofString_append]
  exact List.prefix_append _ _

/-- The password is not marked as a hash, and too long to be hashed, or it holds a null
character or a surrogate, which has no octets. -/
def Unfit (password : Document) : Prop :=
  ∃ text, password = .text text ∧ ¬ IsMarked text ∧
    (4096 < text.length ∨ .char '\x00' ∈ text ∨ ∃ c ∈ text, c.isSurrogate = true)

/-- A text that is not refused has octets. -/
theorem isEncodable_of_refusal? {text : Text} (accepted : refusal? text = none) :
    text.isEncodable = true := by
  by_contra broken
  rw [refusal?] at accepted
  split at accepted <;> simp_all

theorem isEncodable_eq_false_iff {text : Text} :
    text.isEncodable = false ↔ ∃ c ∈ text, c.isSurrogate = true := by
  simp [Text.isEncodable]

theorem refusal?_isSome_iff {text : Text} :
    (∃ reason, refusal? text = some reason) ↔
      4096 < text.length ∨ .char '\x00' ∈ text ∨ ∃ c ∈ text, c.isSurrogate = true := by
  rw [← isEncodable_eq_false_iff]
  by_cases long : 4096 < text.length <;> by_cases broken : .char '\x00' ∈ text <;>
    cases encodable : text.isEncodable <;>
    simp [refusal?, passwordLimit, long, broken, encodable]

theorem unfit_iff : Unfit password ↔ ∃ reason, Unhashable password reason := by
  constructor
  · intro unfit
    obtain ⟨text, given, unmarked, cause⟩ := unfit
    obtain ⟨reason, refused⟩ := refusal?_isSome_iff.mpr cause
    rw [← isHash_iff, Bool.not_eq_true] at unmarked
    exact ⟨reason, text, given, unmarked, refused⟩
  · intro refused
    obtain ⟨reason, text, given, unmarked, refused⟩ := refused
    refine ⟨text, given, ?_, refusal?_isSome_iff.mp ⟨reason, refused⟩⟩
    rw [← isHash_iff, unmarked]
    exact Bool.false_ne_true

theorem storable_iff (checked : password = .null ∨ password.IsText) :
    Storable password ↔ ¬ Unfit password := by
  rcases checked with rfl | ⟨text, rfl⟩
  · simp [Storable, Unfit]
  · rw [unfit_iff]
    cases marked : isHash text <;> cases refused : refusal? text <;>
      simp [Storable, Unhashable, marked, refused]

/-- What is stored for a text is marked as a hash.  It is the text where that is marked, and
otherwise the hash of its characters with the salt. -/
structure Stored (salt : String) (text hash : Text) : Prop where
  marked : IsMarked hash
  own : hash = text ↔ IsMarked text
  hashed : ¬ IsMarked text → ∃ plain : String, text = plain ∧ hash = Digest.crypt salt plain

def Stores (salt : String) (given stored : Document) : Prop :=
  (given = .null ∧ stored = .null) ∨
    ∃ text hash, given = .text text ∧ stored = .text hash ∧ Stored salt text hash

/-- A text without surrogates is one of characters. -/
theorem eq_ofString_of_isEncodable {text : Text} (encodable : text.isEncodable = true) :
    text = Text.ofString (String.ofList text.chars) := by
  rw [Text.ofString_ofList, Text.ofChars_chars encodable]

theorem storedPassword_stores (stored : (storedPassword salt user).result = .ok password) :
    Stores salt user.password password := by
  rcases storedPassword_ok stored with ⟨given, rfl⟩ | ⟨⟨text, given⟩, hash, rfl⟩
  · exact .inl ⟨given, rfl⟩
  · refine .inr ⟨text, hash, given, rfl, ?_⟩
    cases hashed : isHash text with
    | true =>
        have marked := isHash_iff.mp hashed
        obtain rfl : text = hash := by
          simpa [storedPassword, given, Document.isNull, isHashOf, hashed] using stored
        exact ⟨marked, iff_of_true rfl marked, absurd marked⟩
    | false =>
        have unmarked : ¬ IsMarked text := by
          rw [← isHash_iff, hashed]
          exact Bool.false_ne_true
        obtain ⟨refused, rfl⟩ : refusal? text = none ∧
            Text.ofString (Digest.crypt salt (String.ofList text.chars)) = hash := by
          cases refused : refusal? text <;>
            simp [storedPassword, given, Document.isNull, isHashOf, Account.hash, hashed,
              refused] at stored
          exact ⟨rfl, stored⟩
        have marked := isMarked_crypt salt (String.ofList text.chars)
        refine ⟨marked, iff_of_false ?_ unmarked, fun _ => ⟨_, ?_, rfl⟩⟩
        · intro same
          exact unmarked (same ▸ marked)
        · exact eq_ofString_of_isEncodable (isEncodable_of_refusal? refused)

/-- A password that was stored is stored again as it is, whatever the salt. -/
theorem storedPassword_again {earlier : String} {given : Document}
    (stored : Stores earlier given password)
    (kept : user.password = password) :
    (storedPassword salt user).result = .ok password := by
  rcases stored with ⟨_, rfl⟩ | ⟨_, hash, _, rfl, hashed⟩
  · simp [storedPassword, kept, Document.isNull]
  · simp [storedPassword, kept, Document.isNull, isHashOf, isHash_iff.mpr hashed.marked]

end Password

section Record

/-- The fields of a user's record, set or not. -/
def recordFields (user : User) (password : Document) : List (Text × Document) := [
  ("uid", user.uid), ("gid", user.gid), ("groups", writeSection .list user.groups),
  ("description", user.description), ("home", user.home), ("shell", user.shell),
  ("password", password), ("key", user.key)]

theorem userRecord_eq (user : User) (password : Document) :
    userRecord user password = .object (options (recordFields user password)).setFields :=
  rfl

/-- There is a password in the record if the user has one: that or its hash. -/
def KeepsPassword (salt : String) (user : User) (record : Fields) : Prop :=
  (user.password = .null ∧ Fields.find? record (.text "password") = none) ∨
    ∃ text hash, user.password = .text text ∧
      Fields.find? record (.text "password") = some (.text hash) ∧ Stored salt text hash

/-- What the record of a user has of the user, and that it has nothing else. -/
structure Recorded (salt : String) (user : User) (record : Fields) : Prop where
  plain : KeepsSet user.plainFields record
  password : KeepsPassword salt user record
  distinct : record.keys.Nodup
  others : ∀ key ∈ record.keys,
    key = .text "password" ∨ ∃ field ∈ user.plainFields, key = .text field.1

theorem recordFields_keepsSet (user : User) (password : Document) :
    KeepsSet (recordFields user password) (options (recordFields user password)).setFields :=
  keepsSet_setFields _ (by simp [recordFields])

theorem recordFields_recorded (stored : Stores salt user.password password) :
    Recorded salt user (options (recordFields user password)).setFields where
  plain field member := by
    refine recordFields_keepsSet user password field ?_
    have whole : user.plainFields ⊆ recordFields user password := by
      simp [User.plainFields, recordFields]
    exact whole member
  password := by
    have found := recordFields_keepsSet user password ("password", password)
      (by simp [recordFields])
    rcases stored with ⟨given, rfl⟩ | ⟨text, hash, given, rfl, marked⟩
    · exact .inl ⟨given, found⟩
    · exact .inr ⟨text, hash, given, found, marked⟩
  distinct := by
    have all : (options (recordFields user password)).keys.Nodup := by
      simp [options, recordFields, Fields.keys]
    exact all.sublist (List.filter_sublist.map _)
  others key member := by
    have all : key ∈ (options (recordFields user password)).keys :=
      (List.filter_sublist.map _).subset member
    obtain ⟨field, listed, rfl⟩ : ∃ field ∈ recordFields user password, .text field.1 = key := by
      simpa [options, Fields.keys] using all
    have whole : recordFields user password ⊆ ("password", password) :: user.plainFields := by
      simp [User.plainFields, recordFields]
    rcases List.mem_cons.mp (whole listed) with rfl | plain
    · exact .inl rfl
    · exact .inr ⟨field, plain, rfl⟩

/-- The object that a record is read back from, its name in front. -/
def restored (name : Text) (record : Fields) : Document :=
  .object (Fields.putAll [(.text "name", .text name)] record)

theorem restored_fieldOr {record : Fields} (distinct : record.Distinct) (field : String) :
    (restored name record).fieldOr field .null =
      ((Fields.find? record (.text field)).or
        (Fields.find? [(.text "name", .text name)] (.text field))).getD .null := by
  rw [restored, Document.fieldOr, Fields.find?_putAll distinct]

/-- A field that was given is read back, and one that was not is null. -/
theorem restored_kept {given : List (Text × Document)} {record : Fields} {field : String}
    {value : Document} (distinct : record.Distinct) (kept : KeepsSet given record)
    (member : (Text.ofString field, value) ∈ given) (other : field ≠ "name") :
    (restored name record).fieldOr field .null = value.ifSet := by
  have apart : Fields.find? [(.text "name", .text name)] (.text field) = none := by
    simpa [Fields.find?] using other.symm
  have found : Fields.find? record (.text field) = if value.isUnset then none else some value :=
    kept (field, value) member
  rw [restored_fieldOr distinct, apart, found, Option.or_none]
  cases unset : value.isUnset with
  | true =>
      rw [Document.ifSet, if_pos unset]
      rfl
  | false => simp [Document.ifSet_of_set unset]

theorem recordFields_distinct (user : User) (password : Document) :
    (options (recordFields user password)).setFields.Distinct :=
  (Fields.named_options_iff.mpr (by simp [recordFields])).setFields.distinct

theorem restored_recordFields (user : User) (password : Document) (name : Text) :
    ∀ field ∈ recordFields user password, ∀ wanted : String, field.1 = wanted →
      (restored name (options (recordFields user password)).setFields).fieldOr wanted .null =
        field.2.ifSet := by
  rintro ⟨_, value⟩ member wanted rfl
  refine restored_kept (recordFields_distinct user password)
    (recordFields_keepsSet user password) member ?_
  rintro rfl
  have absent : Text.ofString "name" ∉ (recordFields user password).map Prod.fst := by
    simp [recordFields]
  exact absent (List.mem_map_of_mem member)

theorem restored_name (user : User) (password : Document) (name : Text) :
    (restored name (options (recordFields user password)).setFields).fieldOr "name" .null =
      .text name := by
  have absent :
      Fields.find? (options (recordFields user password)).setFields (.text "name") = none := by
    have distinct := Fields.named_options_iff.mpr
      (show ((recordFields user password).map Prod.fst).Nodup by simp [recordFields])
    rw [Fields.find?_setFields distinct.distinct]
    simp [recordFields, options, Fields.find?]
  rw [restored_fieldOr (recordFields_distinct user password), absent]
  simp [Fields.find?]

/-- The user that is read back from a record has what was set, under the name. -/
theorem ofDocument_restored (user : User) (password : Document) (name : Text) :
    ∃ again, User.ofDocument
        (restored name (options (recordFields user password)).setFields) = .ok again ∧
      again.name = .text name ∧ again.password = password.ifSet ∧
      recordFields again password.ifSet =
        (recordFields user password).map fun field => (field.1, field.2.ifSet) := by
  have named := restored_name user password name
  have fields := restored_recordFields user password name
  -- From here on only the fields of the object matter, not how it was put together.
  generalize restored name (options (recordFields user password)).setFields = data at named fields
  simp only [recordFields, List.forall_mem_cons] at fields
  obtain ⟨uid, gid, grouped, description, home, shell, secret, key, -⟩ := fields
  obtain ⟨groups, read, written⟩ := readSection_ifSet user.groups
  have has : data.Has "name" := Document.has_of_isText ⟨name, named⟩
  refine ⟨_, User.ofDocument_ok_iff.mpr ⟨has, groups, grouped _ rfl ▸ read, rfl⟩, named,
    secret _ rfl, ?_⟩
  simp only [recordFields, List.map_cons, List.map_nil, uid _ rfl, gid _ rfl, written,
    description _ rfl, home _ rfl, shell _ rfl, key _ rfl]

/-- A record is that of the user who is read back from it. -/
theorem provisionUser_restored (salt : String) {earlier : String}
    (stored : Stores earlier user.password password) (name : Text) :
    ∃ record again, userRecord user password = .object record ∧
      User.ofDocument (restored name record) = .ok again ∧
      (provisionUser salt again).result = .ok (.text name, .object record) := by
  obtain ⟨again, read, named, secret, fields⟩ := ofDocument_restored user password name
  have set : password.ifSet = password := by
    rcases stored with ⟨_, rfl⟩ | ⟨_, hash, _, rfl, _⟩ <;> rfl
  rw [set] at secret fields
  refine ⟨_, again, userRecord_eq user password, read, ?_⟩
  have same : userRecord again password = userRecord user password := by
    rw [userRecord_eq, userRecord_eq, fields, setFields_ifSet]
  rw [← userRecord_eq, ← same]
  simp [provisionUser, storedPassword_again stored secret, named, Document.asKey]

end Record

section Projection

/-- The user is the last one of this name. -/
def IsLastNamed (users : List User) (name : Text) (user : User) : Prop :=
  ∃ before after, users = before ++ user :: after ∧ user.name = .text name ∧
    ∀ later ∈ after, later.name ≠ .text name

/-- The record is read back as the user. -/
def ReadsAs (entry : Scalar × Document) (user : User) : Prop :=
  ∃ name record, entry = (.text name, .object record) ∧
    User.ofDocument (restored name record) = .ok user

/-- The options of the stage that makes users. -/
def stageOptions (salt : String) (users : List User) : Except Failure Fields :=
  (usersOptions <$> userRecords salt users).result

/-- The records have each name once, where it is first, for the last user of the name.  The
users that are read back from them have the same records, whatever the salt. -/
structure Projected (salt : String) (users : List User) (records : Fields) : Prop where
  names : ∃ names : List Text, users.map User.name = names.map .text ∧
    records.keys = names.eraseDups.map .text
  recorded : ∀ name user, IsLastNamed users name user →
    ∃ record, Fields.find? records (.text name) = some (.object record) ∧
      Recorded salt user record
  again : ∀ other, ∃ again, List.Forall₂ ReadsAs records again ∧
    stageOptions other again = .ok (options [("users", .object records)])

/-- The users are refused for the first password that is unfit. -/
def RefusedFor (users : List User) (failure : Failure) : Prop :=
  ∃ before user after reason, users = before ++ user :: after ∧
    (∀ earlier ∈ before, ¬ Unfit earlier.password) ∧ Unfit user.password ∧
    failure = .invalid (.password user.name (.text reason))

theorem stageOptions_ok_iff {fields : Fields} :
    stageOptions salt users = .ok fields ↔
      ∃ records, (userRecords salt users).result = .ok records ∧
        fields = options [("users", .object records)] := by
  rw [stageOptions, Outcome.result_map, Except.map_eq_ok_iff]
  simp only [usersOptions, eq_comm]

theorem stageOptions_error_iff :
    stageOptions salt users = .error failure ↔
      (userRecords salt users).result = .error failure := by
  rw [stageOptions, Outcome.result_map, Except.map_eq_error_iff]

theorem result_renderUsers (surroundings : Surroundings) (context : Context) :
    (StageType.renderUsers surroundings context).result =
      stageOptions surroundings.salt context.customizations.users := by
  rw [stageOptions, Outcome.result_map, StageType.renderUsers, Outcome.result_bind]
  cases (userRecords surroundings.salt context.customizations.users).result <;> rfl

/-- A user under a text is provisioned with a pair. -/
def Provisions (salt : String) (user : User) (pair : Scalar × Document) : Prop :=
  ∃ name password, user.name = .text name ∧ Stores salt user.password password ∧
    pair = (.text name, userRecord user password)

theorem Provisions.sameKey {other : User} {pair final : Scalar × Document}
    (provisioned : Provisions salt user pair) (provisionedOther : Provisions salt other final) :
    user.name.same other.name = Fields.sameKey pair final := by
  obtain ⟨name, _, named, _, rfl⟩ := provisioned
  obtain ⟨otherName, _, otherNamed, _, rfl⟩ := provisionedOther
  rw [named, otherNamed, Document.same]
  rfl

variable {pairs : List (Scalar × Document)}

theorem forall₂_provisions (named : ∀ user ∈ users, user.name.IsText)
    (each : List.Forall₂ (fun user pair => (provisionUser salt user).result = .ok pair)
      users pairs) : List.Forall₂ (Provisions salt) users pairs := by
  induction each with
  | nil => exact .nil
  | @cons user pair users pairs provisioned _ ih =>
      obtain ⟨isText, others⟩ := List.forall_mem_cons.mp named
      refine .cons ?_ (ih others)
      obtain ⟨key, password, spelled, stored, rfl⟩ := provisionUser_ok provisioned
      obtain ⟨name, isText⟩ := isText
      obtain rfl : Scalar.text name = key := Document.scalar.inj (isText.symm.trans spelled)
      exact ⟨name, password, isText, storedPassword_stores stored, rfl⟩

theorem exists_names (each : List.Forall₂ (Provisions salt) users pairs) :
    ∃ names : List Text, users.map User.name = names.map .text ∧
      pairs.map (·.1) = names.map .text := by
  induction each with
  | nil => exact ⟨[], rfl, rfl⟩
  | cons provisioned _ ih =>
      obtain ⟨name, _, named, _, rfl⟩ := provisioned
      obtain ⟨names, ofUsers, ofPairs⟩ := ih
      exact ⟨name :: names, by simp [named, ofUsers], by simp [ofPairs]⟩

theorem IsLastNamed.standing (last : IsLastNamed users name user) :
    Standing (fun left right : User => left.name.same right.name) users user := by
  obtain ⟨before, after, rfl, named, alone⟩ := last
  refine ⟨before, after, rfl, fun later member => ?_⟩
  have apart := alone later member
  change user.name.same later.name = false
  rw [named]
  cases other : later.name with
  | scalar key =>
      rw [Document.same, Bool.eq_false_iff]
      intro same
      exact apart (by rw [other, Scalar.eq_of_text_same same])
  | list items => simp [Document.same]
  | object fields => simp [Document.same]

theorem recorded_of_last (each : List.Forall₂ (Provisions salt) users pairs)
    (last : IsLastNamed users name user) :
    ∃ record, Fields.find? (Fields.ofPairs pairs) (.text name) = some (.object record) ∧
      Recorded salt user record := by
  obtain ⟨pair, ⟨other, password, named, stored, rfl⟩, stands⟩ :=
    last.standing.corresponds each Provisions.sameKey
  obtain ⟨_, _, _, spelled, _⟩ := last
  obtain rfl : name = other := by simpa [spelled] using named
  exact ⟨_, Fields.find?_ofPairs_of_standing stands (by simp), recordFields_recorded stored⟩

theorem exists_forall₂ {related : α → β → Prop} {values : List α}
    (each : ∀ value ∈ values, ∃ result, related value result) :
    ∃ results, List.Forall₂ related values results := by
  induction values with
  | nil => exact ⟨[], .nil⟩
  | cons value rest ih =>
      obtain ⟨first, others⟩ := List.forall_mem_cons.mp each
      obtain ⟨result, holds⟩ := first
      obtain ⟨results, rest⟩ := ih others
      exact ⟨result :: results, .cons holds rest⟩

/-- Every record is read back as a user with that record. -/
theorem exists_readsAs (other : String) (each : List.Forall₂ (Provisions salt) users pairs) :
    ∀ entry ∈ Fields.ofPairs pairs, ∃ again, ReadsAs entry again ∧
      (provisionUser other again).result = .ok entry := by
  have known : ∀ pair ∈ pairs, (∃ name, pair.1 = .text name) ∧
      ∃ user password, Stores salt user.password password ∧ pair.2 = userRecord user password := by
    intro pair member
    obtain ⟨user, _, name, password, _, stored, rfl⟩ := exists_related each.flip member
    exact ⟨⟨name, rfl⟩, user, password, stored, rfl⟩
  intro entry member
  obtain ⟨key, value⟩ := entry
  obtain ⟨name, rfl⟩ : ∃ name, key = .text name :=
    Fields.forall_key_ofPairs (fun key => ∃ name, key = .text name)
      (fun pair found => (known pair found).1) _ member
  obtain ⟨user, password, stored, rfl⟩ :=
    Fields.forall_value_ofPairs
      (fun value => ∃ user password, Stores salt user.password password ∧
        value = userRecord user password) (fun pair found => (known pair found).2) _ member
  obtain ⟨record, again, made, read, provisioned⟩ := provisionUser_restored other stored name
  rw [made]
  exact ⟨again, ⟨name, record, rfl, read⟩, provisioned⟩

/-- The users that are read back from records have these records. -/
theorem userRecords_readBack (other : String) (each : List.Forall₂ (Provisions salt) users pairs) :
    ∃ again, List.Forall₂ ReadsAs (Fields.ofPairs pairs) again ∧
      (userRecords other again).result = .ok (Fields.ofPairs pairs) := by
  obtain ⟨again, matched⟩ := exists_forall₂ (exists_readsAs other each)
  refine ⟨again, matched.imp fun _ _ known => known.1, ?_⟩
  -- No two of the entries have one key, so storing them anew changes nothing.
  have provisioned := Except.mapM_eq_ok_iff.mpr (matched.flip.imp fun _ _ known => known.2)
  rw [userRecords, Outcome.result_bind, Outcome.result_mapM, provisioned, Except.ok_bind,
    Outcome.result_pure, Fields.ofPairs_of_distinct (Fields.ofPairs_distinct pairs)]

theorem projected_of_recorded (recorded : (userRecords salt users).result = .ok records)
    (named : ∀ user ∈ users, user.name.IsText) : Projected salt users records := by
  obtain ⟨pairs, provisioned, rfl⟩ := userRecords_ok recorded
  have each := forall₂_provisions named provisioned
  obtain ⟨names, ofUsers, ofPairs⟩ := exists_names each
  refine ⟨⟨names, ofUsers, Fields.keys_ofPairs_text ofPairs⟩,
    fun name user last => recorded_of_last each last, fun other => ?_⟩
  obtain ⟨again, read, settled⟩ := userRecords_readBack other each
  exact ⟨again, read, stageOptions_ok_iff.mpr ⟨_, settled, rfl⟩⟩

/-- Users are refused for the first password that is unfit.  If none is, the last user of each
name is recorded, and the records are a fixed point of reading and recording. -/
theorem stageOptions_projects (named : ∀ user ∈ users, user.name.IsText)
    (checked : ∀ user ∈ users, user.password = .null ∨ user.password.IsText) :
    ((∃ failure, stageOptions salt users = .error failure) ↔
      ∃ user ∈ users, Unfit user.password) ∧
    (∀ failure, stageOptions salt users = .error failure → RefusedFor users failure) ∧
    ((∀ user ∈ users, ¬ Unfit user.password) →
      ∃ records, stageOptions salt users = .ok (options [("users", .object records)]) ∧
        Projected salt users records) := by
  have succeeds : (∃ records, (userRecords salt users).result = .ok records) ↔
      ∀ user ∈ users, ¬ Unfit user.password := by
    rw [userRecords_succeeds_iff]
    refine forall₂_congr fun user member => ?_
    rw [Provisionable, storable_iff (checked user member)]
    exact and_iff_left (named user member).isScalar
  have refused : ∀ failure, stageOptions salt users = .error failure →
      RefusedFor users failure := by
    intro failure failed
    obtain ⟨before, user, after, reason, rfl, storable, unhashable, rfl⟩ :=
      (userRecords_error_iff checked named).mp (stageOptions_error_iff.mp failed)
    refine ⟨before, user, after, reason, rfl, fun earlier member => ?_,
      unfit_iff.mpr ⟨reason, unhashable⟩, rfl⟩
    exact (storable_iff (checked earlier (by simp [member]))).mp (storable earlier member)
  refine ⟨⟨?_, ?_⟩, refused, ?_⟩
  · intro failed
    obtain ⟨failure, failed⟩ := failed
    obtain ⟨before, user, after, _, rfl, _, unfit, _⟩ := refused failure failed
    exact ⟨user, by simp, unfit⟩
  · intro cause
    obtain ⟨user, member, unfit⟩ := cause
    cases settled : (userRecords salt users).result with
    | error failure => exact ⟨failure, stageOptions_error_iff.mpr settled⟩
    | ok records => exact absurd unfit (succeeds.mp ⟨records, settled⟩ user member)
  · intro fit
    obtain ⟨records, settled⟩ := succeeds.mpr fit
    exact ⟨records, stageOptions_ok_iff.mpr ⟨records, settled, rfl⟩,
      projected_of_recorded settled named⟩

/-- Two users of one name, the last without a password, and one whose password is a hash. -/
def namesakes : List User := [
  { name := .text "ada", description := .null, password := .text "secret", key := .null,
    home := .null, shell := .null, groups := some [.text "wheel"], uid := .int 1000,
    gid := .null },
  { name := .text "bob", description := .text "", password := .text "$6$salt$hash",
    key := .null, home := .null, shell := .null, groups := none, uid := .null, gid := .int 0 },
  { name := .text "ada", description := .null, password := .null, key := .text "",
    home := .null, shell := .null, groups := some [], uid := .int 0, gid := .null }]

theorem stageOptions_projects_namesakes :
    ∃ records, stageOptions "salt" namesakes = .ok (options [("users", .object records)]) ∧
      Projected "salt" namesakes records ∧
      Fields.keys records = [.text "ada", .text "bob"] := by
  have named : ∀ user ∈ namesakes, user.name.IsText := by simp [namesakes]
  have checked : ∀ user ∈ namesakes, user.password = .null ∨ user.password.IsText := by
    simp [namesakes]
  have plain : refusal? "secret" = none := by decide
  have hashed : isHash "$6$salt$hash" = true := by decide
  have fit : ∀ user ∈ namesakes, ¬ Unfit user.password := by
    simp [namesakes, unfit_iff, Unhashable, plain, hashed]
  obtain ⟨records, settled, projected⟩ := (stageOptions_projects named checked).2.2 fit
  refine ⟨records, settled, projected, ?_⟩
  obtain ⟨names, spelled, keys⟩ := projected.names
  have injective : Function.Injective Document.text := by
    intro left right same
    simpa using same
  have listed : (["ada", "bob", "ada"] : List Text).map Document.text =
      names.map Document.text := spelled
  rw [keys, ← List.map_injective_iff.mpr injective listed]
  rfl

/-- Two users of one name, the first with one half of a pair as its password. -/
def halvedUsers : List User := [
  { name := .text "ada", description := .null, password := .text [.surrogate 0], key := .null,
    home := .null, shell := .null, groups := none, uid := .null, gid := .null },
  { name := .text "ada", description := .null, password := .null, key := .null,
    home := .null, shell := .null, groups := none, uid := .int 1000, gid := .null }]

/-- The half has no octets to be hashed, though it is short and no null character. -/
theorem stageOptions_halved :
    stageOptions "salt" halvedUsers = .error (.invalid (.password (.text "ada") (.text
        "'utf-8' codec can't encode character '\\ud800' in position 0: surrogates not allowed"))) ∧
      ∀ user ∈ halvedUsers, ¬ ∃ text, user.password = .text text ∧ ¬ IsMarked text ∧
        (4096 < text.length ∨ .char '\x00' ∈ text) := by
  refine ⟨rfl, ?_⟩
  simp [halvedUsers]

end Projection

end Account

end ImageStages
