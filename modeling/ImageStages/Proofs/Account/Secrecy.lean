import ImageStages.Account.Provision
import ImageStages.Proofs.Agreement
import ImageStages.Proofs.Blueprint.Reading
import ImageStages.Proofs.Document.Alike

namespace ImageStages

/-! Where plain passwords go.

The accounts of two runs are alike when they differ in plain passwords only.  Their records
are then the same but for the hashes of these, and the commands of the first boot, the notes
and the failures are the same. -/

namespace Account

/-- The password is no hash of an accepted kind, and nothing keeps it from being hashed. -/
structure Plain (password : Text) : Prop where
  unmarked : isHash password = false
  short : password.length ≤ passwordLimit
  encodable : password.isEncodable = true
  unbroken : .char '\x00' ∉ password

def BothPlain (left right : Document) : Prop :=
  ∃ password other, left = .text password ∧ right = .text other ∧ Plain password ∧ Plain other

theorem Plain.unrefused {password : Text} (plain : Plain password) :
    refusal? password = none := by
  have short : ¬ passwordLimit < password.length := Nat.not_lt.mpr plain.short
  have unbroken : password.contains (.char '\x00') = false := by
    simpa using plain.unbroken
  simp only [refusal?, short, plain.encodable, unbroken, Bool.not_true, Bool.false_eq_true,
    if_false]

end Account

namespace User

/-- The users differ in nothing but plain passwords. -/
structure Alike (left right : User) : Prop where
  same : right = { left with password := right.password }
  password : left.password = right.password ∨ Account.BothPlain left.password right.password

end User

namespace Account

/-- The values are the hashes of the plain passwords of two users. -/
inductive Hashed (salt otherSalt : String) (user other : User) : Document → Document → Prop
  | intro {password otherPassword : Text} (given : user.password = .text password)
      (also : other.password = .text otherPassword) (unmarked : isHash password = false)
      (otherUnmarked : isHash otherPassword = false) :
      Hashed salt otherSalt user other (.text (Digest.crypt salt (String.ofList password.chars)))
        (.text (Digest.crypt otherSalt (String.ofList otherPassword.chars)))

/-- The values are the hashes of the plain passwords of one user in either run. -/
def HashedAmong (salt otherSalt : String) (users others : List User)
    (left right : Document) : Prop :=
  ∃ pair ∈ users.zip others, Hashed salt otherSalt pair.1 pair.2 left right

variable {salt otherSalt : String} {user other : User} {password otherPassword : Text}
  {noted : Note → Note → Prop}

/-- A plain password is hashed, after a note that names the user only. -/
def hashing (salt : String) (user : User) : Outcome Document := do
  Outcome.note (hashingNote user.name)
  return .text (← hash salt user.name user.password)

theorem storedPassword_eq (salt : String) (user : User) :
    storedPassword salt user = (do
      if user.password.isNull then return user.password
      else if ← isHashOf user.password then return user.password
      else hashing salt user) :=
  rfl

theorem asked_ok (answer : α) (next : α → Outcome β) :
    ((liftM (Except.ok answer : Except Mishap α) : Outcome α) >>= next) = next answer :=
  rfl

theorem asked_error (mishap : Mishap) (next : α → Outcome β) :
    ((liftM (Except.error mishap : Except Mishap α) : Outcome α) >>= next) =
      Outcome.fail (.mishap mishap) :=
  rfl

theorem storedPassword_of_unmarked (given : user.password = .text password)
    (unmarked : isHash password = false) : storedPassword salt user = hashing salt user := by
  rw [storedPassword_eq, given]
  simp only [Document.isNull, isHashOf, unmarked, Bool.false_eq_true, if_false, asked_ok]

/-- The salt plays no part for a password that is no text, or a hash already. -/
theorem storedPassword_of_marked (salt otherSalt : String)
    (marked : ∀ text, user.password = .text text → isHash text = true) :
    storedPassword salt user = storedPassword otherSalt user := by
  rw [storedPassword_eq, storedPassword_eq]
  cases given : user.password with
  | scalar scalar =>
      cases scalar with
      | text text => simp only [isHashOf, marked text given, if_true, asked_ok]
      | null => simp only [Document.isNull, if_true]
      | _ => simp only [isHashOf, asked_error]
  | _ => simp only [isHashOf, asked_error]

theorem hashing_agree (reflexive : ∀ note, noted note note) (named : other.name = user.name)
    (given : user.password = .text password) (also : other.password = .text otherPassword)
    (unmarked : isHash password = false) (otherUnmarked : isHash otherPassword = false)
    (refused : refusal? otherPassword = refusal? password) :
    Outcome.Agree noted (Hashed salt otherSalt user other) (hashing salt user)
      (hashing otherSalt other) := by
  have hashed : Except.Agree
      (fun left right : String =>
        Hashed salt otherSalt user other (.text left) (.text right))
      (hash salt user.name user.password) (hash otherSalt user.name other.password) := by
    rw [given, also, hash, hash, refused]
    cases refusal? password with
    | some reason => exact .error _
    | none => exact .ok (.intro given also unmarked otherUnmarked)
  have lifted : Outcome.Agree noted
      (fun left right : String =>
        Hashed salt otherSalt user other (.text left) (.text right))
      (liftM (hash salt user.name user.password))
      (liftM (hash otherSalt user.name other.password)) :=
    ⟨.nil, hashed⟩
  rw [hashing, hashing, named]
  refine (Outcome.Agree.note (reflexive _)).bind fun _ => ?_
  exact lifted.bind fun holds => .pure holds

theorem storedPassword_agree (reflexive : ∀ note, noted note note)
    (alike : User.Alike user other) :
    Outcome.Agree noted
      (fun left right => left = right ∨ Hashed salt otherSalt user other left right)
      (storedPassword salt user) (storedPassword otherSalt other) := by
  have named : other.name = user.name := by rw [alike.same]
  rcases alike.password with same | ⟨password, otherPassword, given, also, plain, otherPlain⟩
  · have equal : other = user := by rw [alike.same, ← same]
    subst equal
    by_cases marked : ∀ text, other.password = .text text → isHash text = true
    · rw [storedPassword_of_marked salt otherSalt marked]
      exact (Outcome.Agree.refl reflexive _).mono .inl
    · push Not at marked
      obtain ⟨text, given, plain⟩ := marked
      have unmarked : isHash text = false := by simpa using plain
      rw [storedPassword_of_unmarked given unmarked, storedPassword_of_unmarked given unmarked]
      exact (hashing_agree reflexive rfl given given unmarked unmarked rfl).mono .inr
  · have refused : refusal? otherPassword = refusal? password := by
      rw [plain.unrefused, otherPlain.unrefused]
    rw [storedPassword_of_unmarked given plain.unmarked,
      storedPassword_of_unmarked also otherPlain.unmarked]
    exact (hashing_agree reflexive named given also plain.unmarked otherPlain.unmarked
      refused).mono .inr

section Records

variable {secret : Document → Document → Prop} {left right : Document} {records others : Fields}

/-- Records of alike users differ in the password only. -/
theorem userRecord_alike (alike : User.Alike user other)
    (unset : ∀ {left right}, secret left right → left.isUnset = right.isUnset)
    (holds : left = right ∨ secret left right) :
    Document.SameBut "password" secret (userRecord user left) (userRecord other right) := by
  have same : ∀ (key : Scalar) (value : Document),
      Document.But "password" secret key value value := fun _ _ => .inl rfl
  have password : Document.But "password" secret (.text "password") left right :=
    holds.imp_right fun related => ⟨rfl, related⟩
  rw [alike.same]
  refine .object (Fields.Alike.setFields ?_ ?_)
  · simp [Fields.Alike, options, same, password]
  · intro key value changed related
    rcases related with rfl | ⟨_, related⟩
    · rfl
    · exact unset related

theorem provisionUser_agree (reflexive : ∀ note, noted note note)
    (alike : User.Alike user other)
    (unset : ∀ {left right}, secret left right → left.isUnset = right.isUnset)
    (hashed : ∀ {left right}, Hashed salt otherSalt user other left right → secret left right) :
    Outcome.Agree noted
      (fun left right => left.1 = right.1 ∧ Document.SameBut "password" secret left.2 right.2)
      (provisionUser salt user) (provisionUser otherSalt other) := by
  have named : other.name = user.name := by rw [alike.same]
  rw [provisionUser, provisionUser, named]
  refine (storedPassword_agree reflexive alike).bind fun stored => ?_
  refine (Outcome.Agree.refl reflexive _).bind fun {name same} equal => ?_
  exact .pure ⟨equal, userRecord_alike alike unset (stored.imp_right hashed)⟩

theorem hashedAmong_isUnset {users changed : List User}
    (hashed : HashedAmong salt otherSalt users changed left right) :
    left.isUnset = right.isUnset := by
  obtain ⟨_, _, values⟩ := hashed
  have set : ∀ text : Text, (Document.text text).isUnset = false := fun _ => rfl
  cases values
  rw [set, set]

theorem userRecords_agree (reflexive : ∀ note, noted note note) {users changed : List User}
    (each : List.Forall₂ User.Alike users changed) :
    Outcome.Agree noted
      (Fields.Alike fun _ =>
        Document.SameBut "password" (HashedAmong salt otherSalt users changed))
      (userRecords salt users) (userRecords otherSalt changed) := by
  obtain ⟨length, alike⟩ := List.forall₂_iff_zip.mp each
  have provisioned : Outcome.Agree noted
      (Fields.Alike fun _ =>
        Document.SameBut "password" (HashedAmong salt otherSalt users changed))
      (users.mapM (provisionUser salt)) (changed.mapM (provisionUser otherSalt)) :=
    .mapM (List.forall₂_iff_zip.mpr ⟨length, fun {user other} member =>
      provisionUser_agree reflexive (alike member) hashedAmong_isUnset
        fun hashed => ⟨(user, other), member, hashed⟩⟩)
  exact provisioned.bind fun records => .pure (Fields.Alike.ofPairs records)

/-- The commands of the first boot do not depend on passwords. -/
theorem firstBootOptions_eq
    (alike : Fields.Alike (fun _ => Document.SameBut "password" secret) records others) :
    firstBootOptions records = firstBootOptions others := by
  have commands : records.mapM recordCommands = others.mapM recordCommands := by
    induction alike with
    | nil => rfl
    | @cons entry changed _ _ first _ ih =>
        obtain ⟨name, record⟩ := entry
        obtain ⟨_, other⟩ := changed
        obtain ⟨rfl, same⟩ := first
        have key : record.lookupOr "key" .null = other.lookupOr "key" .null :=
          same.lookupOr_of_ne (by decide)
        rw [List.mapM_cons, List.mapM_cons, ih, recordCommands, recordCommands, key]
  rw [firstBootOptions, firstBootOptions, firstBootCommands, firstBootCommands, commands]

end Records

end Account

end ImageStages
