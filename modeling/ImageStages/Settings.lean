import ImageStages.Document.Access
import ImageStages.Document.Reader
import ImageStages.Files

namespace ImageStages

/-- A literal that follows the release of a distribution, and may be overridden by a
settings file without touching how stages are rendered. -/
inductive Setting where
  | discinfoRelease
  | ostreeOsname
  | bootisoTemplates
  | loraxTemplate
  | kernelImageDir
deriving DecidableEq

namespace Setting

def all : List Setting :=
  [.discinfoRelease, .ostreeOsname, .bootisoTemplates, .loraxTemplate, .kernelImageDir]

def key : Setting → String
  | .discinfoRelease => "discinfo_release"
  | .ostreeOsname => "ostree_osname"
  | .bootisoTemplates => "bootiso_templates"
  | .loraxTemplate => "lorax_template"
  | .kernelImageDir => "kernel_image_dir"

def builtin : Setting → String
  | .discinfoRelease => "202010217.n.0"
  | .ostreeOsname => "rhel"
  | .bootisoTemplates => "80-rhel"
  | .loraxTemplate => "99-generic/runtime-postinstall.tmpl"
  | .kernelImageDir => "/images/pxeboot"

def ofKey? (key : Text) : Option Setting :=
  all.find? (Text.ofString ·.key == key)

end Setting

/-- The stored values, those of the known settings among others. -/
structure Settings where
  values : Fields

namespace Settings

def builtin : Settings :=
  ⟨Setting.all.map fun setting => (.text setting.key, .text setting.builtin)⟩

def find? (settings : Settings) (key : Text) : Option Document :=
  Fields.find? settings.values (.text key)

def store (settings : Settings) (key : Text) (value : Document) : Settings :=
  ⟨settings.values.put (.text key) value⟩

/-- A stored value counts if it is a text that is not empty. -/
def storedText? (settings : Settings) (key : Text) : Option Text :=
  ((settings.find? key).bind Document.text?).filter (· != [])

/-- The value of a setting: the stored one if it counts, else the built-in one. -/
def text (settings : Settings) (setting : Setting) : Text :=
  (settings.storedText? setting.key).getD setting.builtin

def textOf (settings : Settings) (key : Text) : Except Mishap Text :=
  match settings.storedText? key, Setting.ofKey? key with
  | some value, _ => .ok value
  | none, some setting => .ok setting.builtin
  | none, none => .error (.missingKey (.text key))

/-- The built-in settings, overlaid with the object that a text holds, if it holds
one. -/
def ofText? (s : List Char) : Except Mishap (Option Settings) :=
  match Json.read s with
  | .ok (.object fields) => .ok (some ⟨builtin.values.putAll fields⟩)
  | .ok _ => .ok none
  | .error (.syntaxFault _) => .ok none
  | .error (.tooManyDigits count) => .error (.tooManyDigits count)

/-- The settings of a file, or none if there is no such file or it holds no object.
Octets that are no text and numbers without end are not excused. -/
def load? (files : Files) (location : Text.Location) : Except Mishap (Option Settings) := do
  if ← files.exists? location then
    match files.readText location with
    | .ok s => ofText? s
    | .error (.file _) => .ok none
    | .error mishap => .error mishap
  else .ok none

/-- What is done to the settings: they are loaded from one of the files that are there
at that time, or a value is stored. -/
inductive Change where
  | load (files : Files) (location : Text.Location)
  | store (key : Text) (value : Document)

/-- The settings after a change, and after a load also whether a file was applied. -/
structure Changed where
  settings : Settings
  loaded : Option (Except Mishap Bool)

/-- Loads the settings of a file.  Where there are none, and where loading ends in a
mishap, the built-in settings are left. -/
def load (files : Files) (location : Text.Location) : Changed :=
  match load? files location with
  | .ok (some settings) => ⟨settings, some (.ok true)⟩
  | .ok none => ⟨builtin, some (.ok false)⟩
  | .error mishap => ⟨builtin, some (.error mishap)⟩

def apply (settings : Settings) : Change → Changed
  | .load files location => load files location
  | .store key value => ⟨settings.store key value, none⟩

/-- The settings after each of the changes, in their order. -/
def applyAll (settings : Settings) : List Change → List Changed
  | [] => []
  | change :: rest =>
      let changed := settings.apply change
      changed :: changed.settings.applyAll rest

end Settings

end ImageStages
