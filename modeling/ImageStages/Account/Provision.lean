import ImageStages.Account.Password
import ImageStages.Blueprint.Customizations
import ImageStages.Document.Access
import ImageStages.Outcome
import ImageStages.Stage.Record
import ImageStages.Text.Quoted
import ImageStages.Text.Segments

namespace ImageStages.Account

/-! Provisioning of accounts: records of users and groups, and the commands that
give users their keys at the first boot.

Home directories of a deployed tree cannot be written when the image is built, so
keys are added by commands that run once. -/

def hashingNote (user : Document) : Note :=
  Logger.users.note .debug ("Hashing plaintext password for " ++ user.inText)

/-- The password of a record: a hash as it is, a plain password hashed. -/
def storedPassword (salt : String) (user : User) : Outcome Document := do
  if user.password.isNull then return user.password
  else if ← isHashOf user.password then return user.password
  else
    Outcome.note (hashingNote user.name)
    return .text (← hash salt user.name user.password)

def userRecord (user : User) (password : Document) : Document :=
  .object (Fields.setFields (options [
    ("uid", user.uid),
    ("gid", user.gid),
    ("groups", writeSection .list user.groups),
    ("description", user.description),
    ("home", user.home),
    ("shell", user.shell),
    ("password", password),
    ("key", user.key)]))

def provisionUser (salt : String) (user : User) : Outcome (Scalar × Document) := do
  let password ← storedPassword salt user
  let name ← user.name.asKey
  return (name, userRecord user password)

/-- The records of users by name.  Of users with one name the last counts, at the
place of the first. -/
def userRecords (salt : String) (users : List User) : Outcome Fields := do
  let records ← users.mapM (provisionUser salt)
  return Fields.ofPairs records

def usersOptions (records : Fields) : Fields :=
  options [("users", .object records)]

def provisionGroup (group : Group) : Except Failure (Scalar × Document) := do
  let name ← group.name.asKey
  return (name, .object (Fields.setFields (options [("name", group.name), ("gid", group.gid)])))

def groupsOptions (groups : List Group) : Except Failure Fields := do
  let records ← groups.mapM provisionGroup
  return options [("groups", .object (Fields.ofPairs records))]

def homeRoot : String := "/var/home"

def keyDirectory (name : Text) : Text :=
  Text.extendPath (Text.extendPath homeRoot name) ".ssh"

def authorizedKeys (name : Text) : Text :=
  Text.extendPath (keyDirectory name) "authorized_keys"

/-- The commands that make a user's key directory, add the key and hand the
directory to the user. -/
def keyCommands (name key : Text) : List Text :=
  let directory := keyDirectory name
  let append := "echo " ++ Text.Shell.quote key ++ " >> " ++
    Text.Shell.quote (authorizedKeys name)
  ["mkdir -p " ++ directory,
    "sh -c " ++ Text.Shell.quote append,
    "chown " ++ name ++ ":" ++ name ++ " -Rc " ++ directory]

/-- The commands for one record; a user without a key needs none. -/
def recordCommands (entry : Scalar × Document) : Except Mishap (List Text) := do
  let key ← entry.2.lookupOr "key" .null
  if !key.given then return []
  else
    match entry.1, key with
    | .text name, .scalar (.text key) => return keyCommands name key
    | .text _, key => .error (.notQuotable key.kind)
    | name, _ => .error (.notJoinable name.kind)

def relabelCommand : String := "restorecon -rvF " ++ homeRoot

def firstBootCommands (records : Fields) : Except Mishap (List Text) := do
  let commands ← records.mapM recordCommands
  return commands.flatten ++ [Text.ofString relabelCommand]

def firstBootOptions (records : Fields) : Except Mishap Fields := do
  let commands ← firstBootCommands records
  return options [("commands", .texts commands), ("wait_for_network", .bool false)]

end ImageStages.Account
