import ImageStages.Proofs.Catalog.Documented
import ImageStages.Proofs.Document.Reading

namespace ImageStages

/-! Blueprints and repositories as they are read.

A list of texts is taken from whatever yields items: a text yields its characters, an
object its keys.  What is read is the list of the document only where the document has
one. -/

namespace User

variable {data : Document} {user : User}

structure Shaped (data : Document) : Prop where
  name : (data.fieldOr "name" .null).IsText
  description : (data.fieldOr "description" .null).IsTextOrNull
  password : (data.fieldOr "password" .null).IsTextOrNull
  key : (data.fieldOr "key" .null).IsTextOrNull
  home : (data.fieldOr "home" .null).IsTextOrNull
  shell : (data.fieldOr "shell" .null).IsTextOrNull
  groups : data.fieldOr "groups" .null ≠ .null → (data.fieldOr "groups" .null).IsTextList
  uid : (data.fieldOr "uid" .null).IsIntegerOrNull
  gid : (data.fieldOr "gid" .null).IsIntegerOrNull

/-- The groups of the user, if any, are a list of the document. -/
def Literal (data : Document) (user : User) : Prop :=
  ∀ groups, user.groups = some groups → data.fieldOr "groups" .null = .list groups

theorem ofDocument_ok_iff :
    ofDocument data = .ok user ↔
      data.Has "name" ∧ ∃ groups,
        readSection Document.items (data.fieldOr "groups" .null) = .ok groups ∧ user = {
          name := data.fieldOr "name" .null
          description := data.fieldOr "description" .null
          password := data.fieldOr "password" .null
          key := data.fieldOr "key" .null
          home := data.fieldOr "home" .null
          shell := data.fieldOr "shell" .null
          groups
          uid := data.fieldOr "uid" .null
          gid := data.fieldOr "gid" .null } := by
  simp only [ofDocument, Except.bind_eq_ok_iff, Document.index_ok_iff,
    Document.lookupOr_ok_iff, Except.pure_eq_ok, Except.ok.injEq]
  constructor
  · rintro ⟨_, ⟨_, rfl⟩, _, ⟨named, rfl⟩, _, ⟨_, rfl⟩, _, ⟨_, rfl⟩, _, ⟨_, rfl⟩, _, ⟨_, rfl⟩,
      _, ⟨_, rfl⟩, groups, read, _, ⟨_, rfl⟩, _, ⟨_, rfl⟩, rfl⟩
    exact ⟨named, groups, read, rfl⟩
  · rintro ⟨named, groups, read, rfl⟩
    have object := named.isObject
    exact ⟨_, ⟨object, rfl⟩, _, ⟨named, rfl⟩, _, ⟨object, rfl⟩, _, ⟨object, rfl⟩, _,
      ⟨object, rfl⟩, _, ⟨object, rfl⟩, _, ⟨object, rfl⟩, groups, read, _, ⟨object, rfl⟩, _,
      ⟨object, rfl⟩, rfl⟩

theorem ofDocument_of_shaped (shaped : Shaped data) :
    ∃ user, ofDocument data = .ok user := by
  have named := Document.has_of_isText shaped.name
  obtain ⟨groups, read⟩ := readSection_succeeds fun given =>
    (shaped.groups given).yields
  exact ⟨_, ofDocument_ok_iff.mpr ⟨named, groups, read, rfl⟩⟩

theorem literal_iff (read : ofDocument data = .ok user) :
    user.WellTyped ∧ Literal data user ↔ Shaped data := by
  obtain ⟨_, groups, yields, rfl⟩ := ofDocument_ok_iff.mp read
  have listed := readSection_forall_iff yields Document.isTextList_iff
  constructor
  · intro known
    obtain ⟨typed, literal⟩ := known
    exact ⟨typed.name, typed.description, typed.password, typed.key, typed.home, typed.shell,
      listed.mp fun groups given => ⟨typed.groups groups given, literal groups given⟩,
      typed.uid, typed.gid⟩
  · intro shaped
    have known := listed.mpr shaped.groups
    have typed : ∀ items, groups = some items → ∀ item ∈ items, item.IsText :=
      fun items given => (known items given).1
    exact ⟨⟨shaped.name, shaped.description, shaped.password, shaped.key, shaped.home,
      shaped.shell, typed, shaped.uid, shaped.gid⟩, fun items given => (known items given).2⟩

theorem not_escapes_ofDocument (data : Document) : ¬ Escapes (ofDocument data) := by
  simp [ofDocument, not_escapes_readSection]

end User

namespace Group

variable {data : Document} {group : Group}

structure Shaped (data : Document) : Prop where
  name : (data.fieldOr "name" .null).IsText
  gid : (data.fieldOr "gid" .null).IsIntegerOrNull

theorem ofDocument_ok_iff :
    ofDocument data = .ok group ↔
      data.Has "name" ∧
        group = { name := data.fieldOr "name" .null, gid := data.fieldOr "gid" .null } := by
  simp only [ofDocument, Except.bind_eq_ok_iff, Document.index_ok_iff,
    Document.lookupOr_ok_iff, Except.pure_eq_ok, Except.ok.injEq]
  constructor
  · rintro ⟨_, ⟨named, rfl⟩, _, ⟨_, rfl⟩, rfl⟩
    exact ⟨named, rfl⟩
  · rintro ⟨named, rfl⟩
    exact ⟨_, ⟨named, rfl⟩, _, ⟨named.isObject, rfl⟩, rfl⟩

theorem ofDocument_of_shaped (shaped : Shaped data) :
    ∃ group, ofDocument data = .ok group :=
  ⟨_, ofDocument_ok_iff.mpr ⟨Document.has_of_isText shaped.name, rfl⟩⟩

theorem wellTyped_iff (read : ofDocument data = .ok group) :
    group.WellTyped ↔ Shaped data := by
  obtain ⟨_, rfl⟩ := ofDocument_ok_iff.mp read
  exact ⟨fun typed => ⟨typed.name, typed.gid⟩, fun shaped => ⟨shaped.name, shaped.gid⟩⟩

theorem not_escapes_ofDocument (data : Document) : ¬ Escapes (ofDocument data) := by
  simp [ofDocument]

end Group

namespace Services

variable {data : Document} {services : Services}

structure Shaped (data : Document) : Prop where
  object : data.IsObject
  enabled : (data.fieldOr "enabled" (.list [])).IsTextList
  disabled : (data.fieldOr "disabled" (.list [])).IsTextList

/-- The services are lists of the document. -/
structure Literal (data : Document) (services : Services) : Prop where
  enabled : data.fieldOr "enabled" (.list []) = .list services.enabled
  disabled : data.fieldOr "disabled" (.list []) = .list services.disabled

theorem ofDocument_ok_iff :
    ofDocument data = .ok services ↔
      data.IsObject ∧ (data.fieldOr "enabled" (.list [])).items = .ok services.enabled ∧
        (data.fieldOr "disabled" (.list [])).items = .ok services.disabled := by
  obtain ⟨enabled, disabled⟩ := services
  simp only [ofDocument, Except.bind_eq_ok_iff, Document.lookupOr_ok_iff, Except.pure_eq_ok,
    Except.ok.injEq, Services.mk.injEq]
  constructor
  · rintro ⟨_, ⟨object, rfl⟩, _, first, _, ⟨_, rfl⟩, _, second, rfl, rfl⟩
    exact ⟨object, first, second⟩
  · rintro ⟨object, first, second⟩
    exact ⟨_, ⟨object, rfl⟩, _, first, _, ⟨object, rfl⟩, _, second, rfl, rfl⟩

theorem ofDocument_of_shaped (shaped : Shaped data) :
    ∃ services, ofDocument data = .ok services := by
  obtain ⟨enabled, first⟩ := shaped.enabled.yields
  obtain ⟨disabled, second⟩ := shaped.disabled.yields
  exact ⟨⟨enabled, disabled⟩, ofDocument_ok_iff.mpr ⟨shaped.object, first, second⟩⟩

theorem literal_iff (read : ofDocument data = .ok services) :
    services.WellTyped ∧ Literal data services ↔ Shaped data := by
  obtain ⟨object, first, second⟩ := ofDocument_ok_iff.mp read
  have enabled := Document.isTextList_iff first
  have disabled := Document.isTextList_iff second
  constructor
  · intro known
    obtain ⟨typed, literal⟩ := known
    exact ⟨object, enabled.mp ⟨typed.enabled, literal.enabled⟩,
      disabled.mp ⟨typed.disabled, literal.disabled⟩⟩
  · intro shaped
    obtain ⟨enabledTyped, enabledListed⟩ := enabled.mpr shaped.enabled
    obtain ⟨disabledTyped, disabledListed⟩ := disabled.mpr shaped.disabled
    exact ⟨⟨enabledTyped, disabledTyped⟩, ⟨enabledListed, disabledListed⟩⟩

theorem not_escapes_ofDocument (data : Document) : ¬ Escapes (ofDocument data) := by
  simp [ofDocument]

end Services

namespace Firewall

variable {data : Document} {firewall : Firewall}

structure Shaped (data : Document) : Prop where
  object : data.IsObject
  ports : (data.fieldOr "ports" (.list [])).IsTextList
  services : data.fieldOr "services" .null ≠ .null →
    Services.Shaped (data.fieldOr "services" .null)

/-- The ports and the services are lists of the document. -/
structure Literal (data : Document) (firewall : Firewall) : Prop where
  ports : data.fieldOr "ports" (.list []) = .list firewall.ports
  services : ∀ services, firewall.services = some services →
    Services.Literal (data.fieldOr "services" .null) services

theorem ofDocument_ok_iff :
    ofDocument data = .ok firewall ↔
      data.IsObject ∧ (data.fieldOr "ports" (.list [])).items = .ok firewall.ports ∧
        readSection Services.ofDocument (data.fieldOr "services" .null) =
          .ok firewall.services := by
  obtain ⟨ports, services⟩ := firewall
  simp only [ofDocument, Except.bind_eq_ok_iff, Document.lookupOr_ok_iff, Except.pure_eq_ok,
    Except.ok.injEq, Firewall.mk.injEq]
  constructor
  · rintro ⟨_, ⟨object, rfl⟩, _, ⟨_, rfl⟩, _, first, _, second, rfl, rfl⟩
    exact ⟨object, first, second⟩
  · rintro ⟨object, first, second⟩
    exact ⟨_, ⟨object, rfl⟩, _, ⟨object, rfl⟩, _, first, _, second, rfl, rfl⟩

theorem ofDocument_of_shaped (shaped : Shaped data) :
    ∃ firewall, ofDocument data = .ok firewall := by
  obtain ⟨ports, first⟩ := shaped.ports.yields
  obtain ⟨services, second⟩ := readSection_succeeds fun given =>
    Services.ofDocument_of_shaped (shaped.services given)
  exact ⟨⟨ports, services⟩, ofDocument_ok_iff.mpr ⟨shaped.object, first, second⟩⟩

theorem literal_iff (read : ofDocument data = .ok firewall) :
    firewall.WellTyped ∧ Literal data firewall ↔ Shaped data := by
  obtain ⟨object, first, second⟩ := ofDocument_ok_iff.mp read
  have ports := Document.isTextList_iff first
  have services := readSection_forall_iff second Services.literal_iff
  constructor
  · intro known
    obtain ⟨typed, literal⟩ := known
    exact ⟨object, ports.mp ⟨typed.ports, literal.ports⟩, services.mp fun part given =>
      ⟨typed.services part given, literal.services part given⟩⟩
  · intro shaped
    obtain ⟨portsTyped, portsListed⟩ := ports.mpr shaped.ports
    have known := services.mpr shaped.services
    exact ⟨⟨portsTyped, fun services given => (known services given).1⟩,
      ⟨portsListed, fun services given => (known services given).2⟩⟩

theorem not_escapes_ofDocument (data : Document) : ¬ Escapes (ofDocument data) := by
  simp [ofDocument, not_escapes_readSection Services.not_escapes_ofDocument]

end Firewall

namespace Kernel

variable {data : Document} {kernel : Kernel}

structure Shaped (data : Document) : Prop where
  object : data.IsObject
  name : (data.fieldOr "name" (.text "")).IsText
  append : (data.fieldOr "append" (.text "")).IsText

theorem ofDocument_ok_iff :
    ofDocument data = .ok kernel ↔
      data.IsObject ∧ kernel = {
        name := data.fieldOr "name" (.text "")
        append := data.fieldOr "append" (.text "") } := by
  simp only [ofDocument, Except.bind_eq_ok_iff, Document.lookupOr_ok_iff, Except.pure_eq_ok,
    Except.ok.injEq]
  constructor
  · rintro ⟨_, ⟨object, rfl⟩, _, ⟨_, rfl⟩, rfl⟩
    exact ⟨object, rfl⟩
  · rintro ⟨object, rfl⟩
    exact ⟨_, ⟨object, rfl⟩, _, ⟨object, rfl⟩, rfl⟩

theorem ofDocument_of_shaped (shaped : Shaped data) :
    ∃ kernel, ofDocument data = .ok kernel :=
  ⟨_, ofDocument_ok_iff.mpr ⟨shaped.object, rfl⟩⟩

theorem wellTyped_iff (read : ofDocument data = .ok kernel) :
    kernel.WellTyped ↔ Shaped data := by
  obtain ⟨object, rfl⟩ := ofDocument_ok_iff.mp read
  exact ⟨fun typed => ⟨object, typed.name, typed.append⟩,
    fun shaped => ⟨shaped.name, shaped.append⟩⟩

theorem not_escapes_ofDocument (data : Document) : ¬ Escapes (ofDocument data) := by
  simp [ofDocument]

end Kernel

namespace Customizations

variable {data : Document} {customizations : Customizations}

structure Shaped (data : Document) : Prop where
  object : data.IsObject
  users : ∃ items, (data.fieldOr "user" (.list [])).items = .ok items ∧
    ∀ item ∈ items, User.Shaped item
  groups : ∃ items, (data.fieldOr "group" (.list [])).items = .ok items ∧
    ∀ item ∈ items, Group.Shaped item
  firewall : data.fieldOr "firewall" .null ≠ .null →
    Firewall.Shaped (data.fieldOr "firewall" .null)
  services : data.fieldOr "services" .null ≠ .null →
    Services.Shaped (data.fieldOr "services" .null)
  kernel : data.fieldOr "kernel" .null ≠ .null →
    Kernel.Shaped (data.fieldOr "kernel" .null)

/-- All lists of texts are lists of the document, user by user and section by section. -/
structure Literal (data : Document) (customizations : Customizations) : Prop where
  users : ∃ items, (data.fieldOr "user" (.list [])).items = .ok items ∧
    List.Forall₂ User.Literal items customizations.users
  firewall : ∀ firewall, customizations.firewall = some firewall →
    Firewall.Literal (data.fieldOr "firewall" .null) firewall
  services : ∀ services, customizations.services = some services →
    Services.Literal (data.fieldOr "services" .null) services

/-- How the sections of a blueprint come from those of the document. -/
structure ReadFrom (data : Document) (customizations : Customizations) : Prop where
  object : data.IsObject
  users : ∃ items, (data.fieldOr "user" (.list [])).items = .ok items ∧
    List.Forall₂ (fun item user => User.ofDocument item = .ok user) items
      customizations.users
  groups : ∃ items, (data.fieldOr "group" (.list [])).items = .ok items ∧
    List.Forall₂ (fun item group => Group.ofDocument item = .ok group) items
      customizations.groups
  firewall : readSection Firewall.ofDocument (data.fieldOr "firewall" .null) =
    .ok customizations.firewall
  services : readSection Services.ofDocument (data.fieldOr "services" .null) =
    .ok customizations.services
  kernel : readSection Kernel.ofDocument (data.fieldOr "kernel" .null) =
    .ok customizations.kernel

theorem ofDocument_ok_iff :
    ofDocument data = .ok customizations ↔ ReadFrom data customizations := by
  simp only [ofDocument, Except.bind_eq_ok_iff, Document.lookupOr_ok_iff, Except.pure_eq_ok,
    Except.ok.injEq, Except.mapM_eq_ok_iff]
  constructor
  · rintro ⟨_, ⟨object, rfl⟩, _, ⟨_, rfl⟩, _, ⟨_, rfl⟩, _, ⟨_, rfl⟩, _, accounts, _, users, _,
      ⟨_, rfl⟩, _, circles, _, groups, _, firewall, _, services, _, kernel, rfl⟩
    exact ⟨object, ⟨_, accounts, users⟩, ⟨_, circles, groups⟩, firewall, services, kernel⟩
  · intro sections
    obtain ⟨object, ⟨_, accounts, users⟩, ⟨_, circles, groups⟩, firewall, services, kernel⟩ :=
      sections
    exact ⟨_, ⟨object, rfl⟩, _, ⟨object, rfl⟩, _, ⟨object, rfl⟩, _, ⟨object, rfl⟩, _, accounts,
      _, users, _, ⟨object, rfl⟩, _, circles, _, groups, _, firewall, _, services, _, kernel,
      rfl⟩

theorem ofDocument_of_shaped (shaped : Shaped data) :
    ∃ customizations, ofDocument data = .ok customizations := by
  obtain ⟨accounts, listedUsers, eachUser⟩ := shaped.users
  obtain ⟨users, readUsers⟩ := Except.mapM_succeeds_iff.mpr fun item member =>
    User.ofDocument_of_shaped (eachUser item member)
  obtain ⟨circles, listedGroups, eachGroup⟩ := shaped.groups
  obtain ⟨groups, readGroups⟩ := Except.mapM_succeeds_iff.mpr fun item member =>
    Group.ofDocument_of_shaped (eachGroup item member)
  obtain ⟨firewall, readFirewall⟩ := readSection_succeeds fun given =>
    Firewall.ofDocument_of_shaped (shaped.firewall given)
  obtain ⟨services, readServices⟩ := readSection_succeeds fun given =>
    Services.ofDocument_of_shaped (shaped.services given)
  obtain ⟨kernel, readKernel⟩ := readSection_succeeds fun given =>
    Kernel.ofDocument_of_shaped (shaped.kernel given)
  exact ⟨⟨users, groups, firewall, services, kernel⟩, ofDocument_ok_iff.mpr {
    object := shaped.object
    users := ⟨accounts, listedUsers, Except.mapM_eq_ok_iff.mp readUsers⟩
    groups := ⟨circles, listedGroups, Except.mapM_eq_ok_iff.mp readGroups⟩
    firewall := readFirewall
    services := readServices
    kernel := readKernel }⟩

theorem literal_iff (read : ofDocument data = .ok customizations) :
    customizations.WellTyped ∧ Literal data customizations ↔ Shaped data := by
  obtain ⟨object, ⟨accounts, listedUsers, eachUser⟩, ⟨circles, listedGroups, eachGroup⟩,
    readFirewall, readServices, readKernel⟩ := ofDocument_ok_iff.mp read
  have users := forall_mem_and_forall₂_iff_of_read eachUser User.literal_iff
  have groups := forall_mem_iff_of_read eachGroup Group.wellTyped_iff
  have firewall := readSection_forall_iff readFirewall Firewall.literal_iff
  have services := readSection_forall_iff readServices Services.literal_iff
  have kernel := readSection_forall_iff readKernel Kernel.wellTyped_iff
  constructor
  · intro known
    obtain ⟨typed, ⟨others, same, literalUsers⟩, literalFirewall, literalServices⟩ := known
    obtain rfl : accounts = others := Except.ok.inj (listedUsers.symm.trans same)
    exact {
      object
      users := ⟨accounts, listedUsers, users.mp ⟨typed.users, literalUsers⟩⟩
      groups := ⟨circles, listedGroups, groups.mp typed.groups⟩
      firewall := firewall.mp fun part given =>
        ⟨typed.firewall part given, literalFirewall part given⟩
      services := services.mp fun part given =>
        ⟨typed.services part given, literalServices part given⟩
      kernel := kernel.mp typed.kernel }
  · intro shaped
    obtain ⟨others, same, shapes⟩ := shaped.users
    obtain rfl : accounts = others := Except.ok.inj (listedUsers.symm.trans same)
    obtain ⟨usersTyped, usersLiteral⟩ := users.mpr shapes
    obtain ⟨others, same, shapes⟩ := shaped.groups
    obtain rfl : circles = others := Except.ok.inj (listedGroups.symm.trans same)
    have firewallKnown := firewall.mpr shaped.firewall
    have servicesKnown := services.mpr shaped.services
    have typed : customizations.WellTyped := {
      users := usersTyped
      groups := groups.mpr shapes
      firewall := fun part given => (firewallKnown part given).1
      services := fun part given => (servicesKnown part given).1
      kernel := kernel.mpr shaped.kernel }
    have literal : Literal data customizations := {
      users := ⟨accounts, listedUsers, usersLiteral⟩
      firewall := fun part given => (firewallKnown part given).2
      services := fun part given => (servicesKnown part given).2 }
    exact ⟨typed, literal⟩

theorem not_escapes_ofDocument (data : Document) : ¬ Escapes (ofDocument data) := by
  simp [ofDocument, not_escapes_mapM User.not_escapes_ofDocument,
    not_escapes_mapM Group.not_escapes_ofDocument,
    not_escapes_readSection Firewall.not_escapes_ofDocument,
    not_escapes_readSection Services.not_escapes_ofDocument,
    not_escapes_readSection Kernel.not_escapes_ofDocument]

end Customizations

namespace Repository

variable {data : Document} {repository : Repository}

structure Shaped (data : Document) : Prop where
  name : (data.fieldOr "name" .null).IsText
  baseurl : (data.fieldOr "baseurl" (.text "")).IsText
  gpgkey : (data.fieldOr "gpgkey" (.text "")).IsText

theorem ofDocument_ok_iff :
    ofDocument data = .ok repository ↔
      data.Has "name" ∧ repository = {
        name := data.fieldOr "name" .null
        baseurl := data.fieldOr "baseurl" (.text "")
        gpgkey := data.fieldOr "gpgkey" (.text "")
        checkGpg := (data.fieldOr "check_gpg" (.bool true)).given } := by
  simp only [ofDocument, Except.bind_eq_ok_iff, Document.index_ok_iff,
    Document.lookupOr_ok_iff, Except.pure_eq_ok, Except.ok.injEq]
  constructor
  · rintro ⟨_, ⟨named, rfl⟩, _, ⟨_, rfl⟩, _, ⟨_, rfl⟩, _, ⟨_, rfl⟩, rfl⟩
    exact ⟨named, rfl⟩
  · rintro ⟨named, rfl⟩
    have object := named.isObject
    exact ⟨_, ⟨named, rfl⟩, _, ⟨object, rfl⟩, _, ⟨object, rfl⟩, _, ⟨object, rfl⟩, rfl⟩

theorem ofDocument_of_shaped (shaped : Shaped data) :
    ∃ repository, ofDocument data = .ok repository :=
  ⟨_, ofDocument_ok_iff.mpr ⟨Document.has_of_isText shaped.name, rfl⟩⟩

theorem wellTyped_iff (read : ofDocument data = .ok repository) :
    repository.WellTyped ↔ Shaped data := by
  obtain ⟨_, rfl⟩ := ofDocument_ok_iff.mp read
  exact ⟨fun typed => ⟨typed.name, typed.baseurl, typed.gpgkey⟩,
    fun shaped => ⟨shaped.name, shaped.baseurl, shaped.gpgkey⟩⟩

theorem not_escapes_ofDocument (data : Document) : ¬ Escapes (ofDocument data) := by
  simp [ofDocument]

end Repository

end ImageStages
