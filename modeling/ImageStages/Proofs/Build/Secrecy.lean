import ImageStages.Proofs.Build.Boundary
import ImageStages.Proofs.Build.Reading
import ImageStages.Proofs.Catalog.Secrecy

namespace ImageStages

/-- The documents of one user, with another plain password each. -/
abbrev User.DocumentsAlike : Document → Document → Prop :=
  Document.SameBut "password" Account.BothPlain

abbrev Customizations.DocumentsAlike : Document → Document → Prop :=
  Document.SameBut "user" (Document.SameItems User.DocumentsAlike)

/-- The documents of requests that are equal but for plain passwords of users. -/
abbrev BuildRequest.DocumentsAlike : Document → Document → Prop :=
  Document.SameBut "customizations" Customizations.DocumentsAlike

variable {data other : Document}

theorem User.alike_of_documents {user changed : User} (alike : User.DocumentsAlike data other)
    (read : User.ofDocument data = .ok user) (readOther : User.ofDocument other = .ok changed) :
    User.Alike user changed := by
  obtain ⟨_, groups, yields, rfl⟩ := User.ofDocument_ok_iff.mp read
  obtain ⟨_, others, yieldsOther, rfl⟩ := User.ofDocument_ok_iff.mp readOther
  have same : ∀ wanted default, "password" ≠ wanted →
      data.fieldOr wanted default = other.fieldOr wanted default :=
    fun wanted default apart => alike.fieldOr_of_ne default apart
  obtain rfl : groups = others := by
    rw [same _ _ (by decide), yieldsOther] at yields
    exact (Except.ok.inj yields).symm
  refine ⟨?_, alike.fieldOr⟩
  rw [same "name" _ (by decide), same "description" _ (by decide), same "key" _ (by decide),
    same "home" _ (by decide), same "shell" _ (by decide), same "uid" _ (by decide),
    same "gid" _ (by decide)]

theorem User.alike_of_items {items others : List Document} {users changed : List User}
    (alike : List.Forall₂ User.DocumentsAlike items others)
    (each : List.Forall₂ (fun item user => User.ofDocument item = .ok user) items users)
    (eachOther : List.Forall₂ (fun item user => User.ofDocument item = .ok user) others changed) :
    List.Forall₂ User.Alike users changed := by
  induction alike generalizing users changed with
  | nil =>
      cases each
      cases eachOther
      exact .nil
  | cons first _ ih =>
      cases each with
      | cons read rest =>
          cases eachOther with
          | cons readOther restOther =>
              exact .cons (User.alike_of_documents first read readOther) (ih rest restOther)

theorem Customizations.alike_of_documents {customizations changed : Customizations}
    (alike : Customizations.DocumentsAlike data other)
    (read : Customizations.ofDocument data = .ok customizations)
    (readOther : Customizations.ofDocument other = .ok changed) :
    changed = { customizations with users := changed.users } ∧
      List.Forall₂ User.Alike customizations.users changed.users := by
  obtain ⟨_, ⟨accounts, listed, users⟩, ⟨circles, grouped, groups⟩, firewall, services, kernel⟩ :=
    Customizations.ofDocument_ok_iff.mp read
  obtain ⟨_, ⟨otherAccounts, otherListed, otherUsers⟩,
    ⟨otherCircles, otherGrouped, otherGroups⟩, otherFirewall, otherServices, otherKernel⟩ :=
    Customizations.ofDocument_ok_iff.mp readOther
  have same : ∀ wanted default, "user" ≠ wanted →
      data.fieldOr wanted default = other.fieldOr wanted default :=
    fun wanted default apart => alike.fieldOr_of_ne default apart
  rw [same _ _ (by decide)] at grouped firewall services kernel
  have sameGroups := read_unique (Except.ok.inj (grouped.symm.trans otherGrouped)) groups
    otherGroups
  have sameFirewall := Except.ok.inj (firewall.symm.trans otherFirewall)
  have sameServices := Except.ok.inj (services.symm.trans otherServices)
  have sameKernel := Except.ok.inj (kernel.symm.trans otherKernel)
  refine ⟨?_, ?_⟩
  · rw [sameGroups, sameFirewall, sameServices, sameKernel]
  · exact User.alike_of_items
      (Document.items_alike Document.SameBut.same alike.fieldOr listed otherListed) users otherUsers

namespace BuildRequest

variable {request changed : BuildRequest}

theorem blueprint_alike (alike : DocumentsAlike data other) :
    Customizations.DocumentsAlike (blueprint data) (blueprint other) := by
  have given : data.fieldOr "customizations" .null = other.fieldOr "customizations" .null ∨ _ :=
    alike.fieldOr
  rcases given with same | related
  · rw [blueprint, blueprint, same]
    exact .same _
  · exact related.orElse (.object [])

/-- Requests that are read from documents alike differ in nothing but plain passwords. -/
theorem alike_of_documents (alike : DocumentsAlike data other)
    (read : ofDocument data = .ok request) (readOther : ofDocument other = .ok changed) :
    changed.stages = request.stages ∧ Context.Alike request.context changed.context := by
  obtain ⟨_, _, named, planned, customized, ⟨items, yields, each⟩, listed⟩ :=
    ofDocument_ok_iff.mp read
  obtain ⟨_, _, otherNamed, otherPlanned, otherCustomized, ⟨otherItems, otherYields, otherEach⟩,
    otherListed⟩ := ofDocument_ok_iff.mp readOther
  have same : ∀ wanted default, "customizations" ≠ wanted →
      data.fieldOr wanted default = other.fieldOr wanted default :=
    fun wanted default apart => alike.fieldOr_of_ne default apart
  rw [same _ _ (by decide)] at named planned yields listed
  have sameArch := named.symm.trans otherNamed
  have sameTable := Except.ok.inj (planned.symm.trans otherPlanned)
  have sameRepositories := read_unique (Except.ok.inj (yields.symm.trans otherYields)) each
    otherEach
  have sameStages : request.stages = changed.stages := by
    have objects := Document.list.inj (listed.symm.trans otherListed)
    exact List.map_injective_iff.mpr (fun _ _ equal => Document.object.inj equal) objects
  obtain ⟨sameSections, users⟩ :=
    Customizations.alike_of_documents (blueprint_alike alike) customized otherCustomized
  refine ⟨sameStages.symm, ?_, users⟩
  rw [sameArch, sameTable, sameRepositories, ← sameSections]

/-- What two builds show: the same failure, or stages that are the same without passwords;
and, whatever the journal shows, entries that are the same but for hashes of the passwords,
also around the build where it is an operation. -/
structure Indistinct (surroundings : Surroundings) (salt : String)
    (request changed : BuildRequest) : Prop where
  failed_or_rendered :
    (∃ failure, request.rendered surroundings = .error failure ∧
        changed.rendered { surroundings with salt } = .error failure) ∨
      ∃ stages others, request.rendered surroundings = .ok stages ∧
        changed.rendered { surroundings with salt } = .ok others ∧
        stages.map Stage.withoutPasswords = others.map Stage.withoutPasswords
  journal : ∀ session : Session,
    List.Forall₂
      (Entry.Alike (Catalog.HashedIn surroundings salt request.context changed.context))
      ((Catalog.renderBatch surroundings request.context request.stages).notes.map session.write)
      ((Catalog.renderBatch { surroundings with salt } changed.context
        changed.stages).notes.map session.write)
  operation : ∀ (session : Session) (logger : Logger) (name : Text) (occurrence : Occurrence)
      (details : Extra), List.Forall₂
      (Entry.Alike (Catalog.HashedIn surroundings salt request.context changed.context))
      (session.run logger (.operation name occurrence details (Step.ofOutcome
        (Catalog.renderBatch surroundings request.context request.stages)))).entries
      (session.run logger (.operation name occurrence details (Step.ofOutcome
        (Catalog.renderBatch { surroundings with salt } changed.context changed.stages)))).entries

/-- Plain passwords go nowhere but into their hashes. -/
theorem indistinct_of_documents (alike : DocumentsAlike data other)
    (accepted : ofDocument data = .ok request) (acceptedOther : ofDocument other = .ok changed)
    (surroundings : Surroundings) (salt : String) :
    Indistinct surroundings salt request changed := by
  obtain ⟨sameStages, contexts⟩ := alike_of_documents alike accepted acceptedOther
  have agree : Outcome.Agree
      (Note.Alike (Catalog.HashedIn surroundings salt request.context changed.context))
      (List.Forall₂
        (Stage.Alike (Catalog.HashedIn surroundings salt request.context changed.context)))
      (Catalog.renderBatch surroundings request.context request.stages)
      (Catalog.renderBatch { surroundings with salt } changed.context changed.stages) := by
    rw [sameStages]
    exact Catalog.renderBatch_agree contexts request.stages
  refine ⟨?_, fun session => Session.write_notes_alike agree.notes,
    fun session logger name occurrence details =>
      Session.run_operation_alike agree name occurrence details⟩
  refine agree.result.failed_or_succeeded.imp_right fun rendered => ?_
  obtain ⟨stages, others, completed, also, each⟩ := rendered
  refine ⟨stages, others, completed, also, ?_⟩
  rw [← List.forall₂_eq_eq_eq, List.forall₂_map_left_iff, List.forall₂_map_right_iff]
  exact each.imp fun _ _ same => same.withoutPasswords_eq

/-- A request for stages of these types with one user, who has a password and no key. -/
def administrator (types : List Text) (password : Text) : Document := .record [
  ("arch", .text "x86_64"),
  ("customizations", .record [
    ("user", .list [.record [("name", .text "admin"), ("password", .text password)]])]),
  ("stages", .list (types.map fun type => .record [("type", .text type)]))]

theorem administrator_alike {password other : Text} (types : List Text)
    (plain : Account.Plain password) (otherPlain : Account.Plain other) :
    DocumentsAlike (administrator types password) (administrator types other) := by
  have passwords : Account.BothPlain (.text password) (.text other) :=
    ⟨_, _, rfl, rfl, plain, otherPlain⟩
  refine .object (.cons ⟨rfl, .inl rfl⟩ (.cons ⟨rfl, .inr ⟨rfl, ?_⟩⟩ (.cons ⟨rfl, .inl rfl⟩ .nil)))
  refine .object (.cons ⟨rfl, .inr ⟨rfl, .list (.cons ?_ .nil)⟩⟩ .nil)
  exact .object (.cons ⟨rfl, .inl rfl⟩ (.cons ⟨rfl, .inr ⟨rfl, passwords⟩⟩ .nil))

theorem administrator_indistinct :
    ∃ request changed,
      ofDocument (administrator ["org.osbuild.users", "org.osbuild.first-boot"] "winter") =
        .ok request ∧
      ofDocument (administrator ["org.osbuild.users", "org.osbuild.first-boot"] "summer") =
        .ok changed ∧
      Indistinct ⟨.builtin, "salt", "token"⟩ "pepper" request changed := by
  have winter : Account.Plain "winter" := ⟨by decide, by decide, by decide, by decide⟩
  have summer : Account.Plain "summer" := ⟨by decide, by decide, by decide, by decide⟩
  have alike := administrator_alike ["org.osbuild.users", "org.osbuild.first-boot"] winter summer
  exact ⟨_, _, rfl, rfl, indistinct_of_documents alike rfl rfl _ _⟩

/-- A password of one half of a pair is told from others: it has no octets to be hashed. -/
theorem administrator_halved :
    (∃ request changed,
      ofDocument (administrator ["org.osbuild.first-boot"] "a") = .ok request ∧
      ofDocument (administrator ["org.osbuild.first-boot"] [.surrogate 0]) = .ok changed ∧
      (∃ stages, request.rendered ⟨.builtin, "salt", "token"⟩ = .ok stages) ∧
      changed.rendered ⟨.builtin, "salt", "token"⟩ =
        .error (.invalid (.password (.text "admin") (.text
        "'utf-8' codec can't encode character '\\ud800' in position 0: surrogates not allowed")))) ∧
      ∀ password ∈ [Text.ofString "a", [.surrogate 0]], Account.isHash password = false ∧
        password.length ≤ Account.passwordLimit ∧ .char '\x00' ∉ password := by
  have asks : Catalog.Asks [(.text "type", .text "org.osbuild.first-boot")]
      ⟨.firstBoot, []⟩ := ⟨rfl, .inr ⟨rfl, rfl⟩⟩
  refine ⟨⟨_, _, rfl, rfl, ?_, ?_⟩, by decide⟩
  · rw [rendered_singleton rfl asks]
    exact ⟨_, rfl⟩
  · rw [rendered_singleton rfl asks]
    rfl

end BuildRequest

end ImageStages
