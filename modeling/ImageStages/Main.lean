import ImageStages.Command.Run

namespace ImageStages.Main

open Text (Location)

/-- The code of the operating system for reading a directory as a file. -/
def directoryCode : UInt32 := 21

def lookAt (path : String) : IO (Option Node) := do
  try
    return some (.file (← IO.FS.readBinFile path).toList)
  catch error =>
    match error with
    | .inappropriateType _ code _ =>
        return if code == directoryCode then some .directory else none
    | _ => return none

def placeText (place : List String) : String :=
  match place with
  | "/" :: names => "/" ++ "/".intercalate names
  | "//" :: names => "//" ++ "/".intercalate names
  | names => "/".intercalate names

def addPlace (files : Files) (place : List String) : IO Files := do
  match ← lookAt (placeText place) with
  | some node => return files.put place node
  | none => return files

def locationsOf (environment : Command.Environment) (words : List String) : List Location :=
  match Command.Invocation.ofWords words with
  | .error _ => []
  | .ok invocation =>
      let directory := Command.journalDirectory environment invocation
      let journal := directory.toList.flatMap fun location =>
        [location.child Command.operationsFile, location.child Command.recordsFile]
      let settings := Location.ofText (invocation.settings.getD environment.settingsPath)
      match invocation.task with
      | .list => settings :: journal
      | .render request _ output =>
          [settings, Location.ofText request] ++ output.toList.map Location.ofText ++ journal

/-- Brings about the nodes that differ from those that were there. -/
def bringAbout (before after : Files) : IO Unit :=
  for (place, node) in after.entries do
    if before.entries.contains (place, node) then continue
    match node with
    | .directory => IO.FS.createDirAll (placeText place)
    | .file octets => IO.FS.writeBinFile (placeText place) ⟨octets.toArray⟩

def saltCharacters : List Char :=
  "./0123456789ABCDEFGHIJKLMNOPQRSTUVWXYZabcdefghijklmnopqrstuvwxyz".toList

def tokenCharacters : List Char := "0123456789abcdef".toList

def randomText (characters : List Char) (count : Nat) : IO String := do
  let mut s := ""
  for _ in [0:count] do
    let index ← IO.rand 0 (characters.length - 1)
    s := s.push (characters[index]?.getD '.')
  return s

/-- Settings are read from the home directory unless the environment tells otherwise. -/
def settingsPath : IO String := do
  match ← IO.getEnv "STAGEGEN_SETTINGS_PATH" with
  | some path => return (Location.ofText path).text
  | none =>
      let home := (← IO.getEnv "HOME").getD "/"
      return (Location.ofText (home ++ "/.config/stagegen/settings.json")).text

def readEnvironment : IO Command.Environment := do
  return {
    settingsPath := ← settingsPath
    logDirectory := ← IO.getEnv "STAGEGEN_LOG_DIR"
    salt := ← randomText saltCharacters 16
    operation := ⟨← randomText tokenCharacters 8, .notANumber⟩
    batchToken := ← randomText tokenCharacters 8 }

/-- A run of the program; a mishap ends it with code 1. -/
def start (words : List String) : IO UInt32 := do
  let environment ← readEnvironment
  let places := ((locationsOf environment words).flatMap Files.placesTo).eraseDups
  let files ← places.foldlM addPlace ⟨[]⟩
  let report := Command.run environment files words
  bringAbout files report.files
  IO.print report.printed
  IO.eprint report.errorText
  match report.result with
  | .ok code => return code.toUInt32
  | .error failure =>
      IO.eprintln s!"{failure.label}: {String.ofList (Text.shownChars failure.message)}"
      return 1

end ImageStages.Main

def main (words : List String) : IO UInt32 :=
  ImageStages.Main.start words
