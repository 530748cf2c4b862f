import ImageStages.Document.Access

namespace ImageStages

structure User where
  name : Document
  description : Document
  password : Document
  key : Document
  home : Document
  shell : Document
  groups : Option (List Document)
  uid : Document
  gid : Document

structure Group where
  name : Document
  gid : Document

structure Services where
  enabled : List Document
  disabled : List Document

structure Firewall where
  ports : List Document
  services : Option Services

structure Kernel where
  name : Document
  append : Document

structure Customizations where
  users : List User
  groups : List Group
  firewall : Option Firewall
  services : Option Services
  kernel : Option Kernel

/-- Reads a section unless it is null. -/
def readSection (read : Document → Except Mishap α) (data : Document) :
    Except Mishap (Option α) :=
  if data.isNull then .ok none else (read data).map some

def writeSection (write : α → Document) (value : Option α) : Document :=
  (value.map write).getD .null

namespace User

def ofDocument (data : Document) : Except Mishap User := do
  let groups ← data.lookupOr "groups" .null
  let name ← data.index "name"
  let description ← data.lookupOr "description" .null
  let password ← data.lookupOr "password" .null
  let key ← data.lookupOr "key" .null
  let home ← data.lookupOr "home" .null
  let shell ← data.lookupOr "shell" .null
  let groups ← readSection Document.items groups
  let uid ← data.lookupOr "uid" .null
  let gid ← data.lookupOr "gid" .null
  return { name, description, password, key, home, shell, groups, uid, gid }

def toDocument (user : User) : Document :=
  .record [
    ("name", user.name),
    ("description", user.description),
    ("password", user.password),
    ("key", user.key),
    ("home", user.home),
    ("shell", user.shell),
    ("groups", writeSection .list user.groups),
    ("uid", user.uid),
    ("gid", user.gid)]

end User

namespace Group

def ofDocument (data : Document) : Except Mishap Group := do
  let name ← data.index "name"
  let gid ← data.lookupOr "gid" .null
  return { name, gid }

def toDocument (group : Group) : Document :=
  .record [("name", group.name), ("gid", group.gid)]

end Group

namespace Services

def ofDocument (data : Document) : Except Mishap Services := do
  let enabled ← (← data.lookupOr "enabled" (.list [])).items
  let disabled ← (← data.lookupOr "disabled" (.list [])).items
  return { enabled, disabled }

def toDocument (services : Services) : Document :=
  .record [("enabled", .list services.enabled), ("disabled", .list services.disabled)]

end Services

namespace Firewall

def ofDocument (data : Document) : Except Mishap Firewall := do
  let services ← data.lookupOr "services" .null
  let ports ← (← data.lookupOr "ports" (.list [])).items
  let services ← readSection Services.ofDocument services
  return { ports, services }

def toDocument (firewall : Firewall) : Document :=
  .record [
    ("ports", .list firewall.ports),
    ("services", writeSection Services.toDocument firewall.services)]

end Firewall

namespace Kernel

def ofDocument (data : Document) : Except Mishap Kernel := do
  let name ← data.lookupOr "name" (.text "")
  let append ← data.lookupOr "append" (.text "")
  return { name, append }

def toDocument (kernel : Kernel) : Document :=
  .record [("name", kernel.name), ("append", kernel.append)]

end Kernel

namespace Customizations

def ofDocument (data : Document) : Except Mishap Customizations := do
  let firewall ← data.lookupOr "firewall" .null
  let services ← data.lookupOr "services" .null
  let kernel ← data.lookupOr "kernel" .null
  let users ← (← data.lookupOr "user" (.list [])).items
  let users ← users.mapM User.ofDocument
  let groups ← (← data.lookupOr "group" (.list [])).items
  let groups ← groups.mapM Group.ofDocument
  let firewall ← readSection Firewall.ofDocument firewall
  let services ← readSection Services.ofDocument services
  let kernel ← readSection Kernel.ofDocument kernel
  return { users, groups, firewall, services, kernel }

def toDocument (customizations : Customizations) : Document :=
  .record [
    ("user", .list (customizations.users.map User.toDocument)),
    ("group", .list (customizations.groups.map Group.toDocument)),
    ("firewall", writeSection Firewall.toDocument customizations.firewall),
    ("services", writeSection Services.toDocument customizations.services),
    ("kernel", writeSection Kernel.toDocument customizations.kernel)]

end Customizations

end ImageStages
