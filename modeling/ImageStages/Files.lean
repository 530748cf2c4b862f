import ImageStages.Text.Segments
import ImageStages.Text.Utf8

namespace ImageStages

/-! The files that a run of the command sees and leaves behind.

Files are known by the names on the way to them, from the working directory or from
a root.  A directory is there when it was made, or when something lies below it. -/

inductive Node where
  | file (octets : List UInt8)
  | directory
deriving DecidableEq

structure Files where
  entries : List (List String × Node)
deriving DecidableEq

namespace Files

open Text (Location)

def nameLimit : Nat := 255

def pathLimit : Nat := 4095

def parent : String := ".."

/-- A root, and the working directory with all above it, are always there. -/
def isGiven (place : List String) : Bool :=
  place.all (· == parent) || place == ["/"] || place == ["//"]

def above (place : List String) : List String :=
  if place.all (· == parent) then place ++ [parent]
  else if isGiven place then place
  else place.dropLast

def next (place : List String) (name : String) : List String :=
  if name = parent then above place else place ++ [name]

def placesFrom (place : List String) : List String → List (List String)
  | [] => []
  | name :: rest => next place name :: placesFrom (next place name) rest

def node? (files : Files) (path : List String) : Option Node :=
  match files.entries.find? (·.1 == path) with
  | some entry => some entry.2
  | none =>
      if isGiven path || files.entries.any fun entry => path.isPrefixOf entry.1 then
        some .directory
      else none

/-- Follows names from a place, which has to be a directory for each of them. -/
def follow (files : Files) (place : List String) :
    List String → Except FileTrouble (List String)
  | [] => .ok place
  | name :: rest =>
      match files.node? place with
      | none => .error .missing
      | some (.file _) => .error .notDirectory
      | some .directory =>
          if nameLimit < name.utf8ByteSize then .error .nameTooLong
          else follow files (next place name) rest

def start (location : Location) : List String :=
  if location.root.isEmpty then [] else [location.root]

def resolve (files : Files) (location : Location) : Except FileTrouble (List String) :=
  if pathLimit < location.text.utf8ByteSize then .error .nameTooLong
  else files.follow (start location) location.names

def stat (files : Files) (location : Location) : Except FileTrouble Node := do
  match files.node? (← files.resolve location) with
  | some node => .ok node
  | none => .error .missing

def hasNul (location : Location) : Bool :=
  location.text.toList.any (· == '\x00')

def refusal (location : Location) (trouble : FileTrouble) : Mishap :=
  .file ⟨trouble, location.text⟩

def exists? (files : Files) (location : Location) : Except Mishap Bool :=
  if hasNul location then .ok false
  else
    match files.stat location with
    | .ok _ => .ok true
    | .error .missing => .ok false
    | .error .notDirectory => .ok false
    | .error trouble => .error (refusal location trouble)

/-- A value holds no more octets than this. -/
def octetLimit : Nat := 0x7fffffffffffffff

/-- The text of a file, with its line breaks unified. -/
def readText (files : Files) (location : Location) : Except Mishap (List Char) :=
  if hasNul location then .error .nulInPath
  else
    match files.stat location with
    | .error trouble => .error (refusal location trouble)
    | .ok .directory => .error (refusal location .isDirectory)
    | .ok (.file octets) =>
        if octetLimit < octets.length then
          .error (.outOfRange
            "unbounded read returned more bytes than a Python bytes object can hold")
        else
          match Text.decodeUtf8 octets with
          | .ok s => .ok (Text.unifyLineBreaks s)
          | .error error => .error (.encoding error)

def put (files : Files) (path : List String) (node : Node) : Files :=
  if files.entries.any (·.1 == path) then
    ⟨files.entries.map fun entry => if entry.1 == path then (path, node) else entry⟩
  else ⟨files.entries ++ [(path, node)]⟩

/-- Replaces what a file holds, or makes the file in a directory that is there. -/
def write (files : Files) (location : Location) (octets : List UInt8) :
    Except Mishap Files :=
  if hasNul location then .error .nulInPath
  else
    match files.resolve location with
    | .error trouble => .error (refusal location trouble)
    | .ok path =>
        match files.node? path with
        | some .directory => .error (refusal location .isDirectory)
        | _ => .ok (files.put path (.file octets))

/-- Adds to the end of a file, which is made if it is not there. -/
def append (files : Files) (path : List String) (octets : List UInt8) : Files :=
  match files.node? path with
  | some (.file before) => files.put path (.file (before ++ octets))
  | _ => files.put path (.file octets)

def placesTo (location : Location) : List (List String) :=
  placesFrom (start location) location.names

def makeDirectory (files : Files) (location : Location) : Except Mishap Files :=
  if hasNul location then .error .nulInPath
  else
    match files.stat location with
    | .ok .directory => .ok files
    | .ok (.file _) => .error (refusal location .exists)
    | .error .missing =>
        .ok ((placesTo location).foldl (fun files place =>
          if (files.node? place).isSome then files else files.put place .directory) files)
    | .error trouble => .error (refusal location trouble)

end Files

end ImageStages
