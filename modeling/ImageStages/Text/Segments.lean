import ImageStages.Text.CodePoint

namespace ImageStages.Text

section

variable {α : Type} [DecidableEq α] (slash : α)

/-- A path is a sequence of segments with slashes between them. -/
def segments : List α → List (List α)
  | [] => [[]]
  | c :: rest =>
      match segments rest with
      | [] => [[c]]
      | first :: others => if c = slash then [] :: first :: others else (c :: first) :: others

def namedSegments (path : List α) : List (List α) :=
  (segments slash path).filter (!·.isEmpty)

end

def joinSegments (names : List (List Char)) : List Char :=
  ['/'].intercalate names

/-- The text after the last slash, slashes at the end left aside. -/
def lastSegment (path : Text) : Text :=
  ((path.reverse.dropWhile (· == .char '/')).takeWhile (· != .char '/')).reverse

/-- Extends a path.  An absolute part replaces what stands before it. -/
def extendPath (path part : Text) : Text :=
  if part.head? = some (.char '/') then part
  else if path.isEmpty ∨ path.getLast? = some (.char '/') then path ++ part
  else path ++ .char '/' :: part

/-- The path of a file with a normal spelling: without empty segments and single
dots.  Exactly two slashes at the start differ from one or from many. -/
structure Location where
  root : String
  names : List String
deriving DecidableEq

namespace Location

def rootOf : List Char → String
  | '/' :: '/' :: '/' :: _ => "/"
  | '/' :: '/' :: _ => "//"
  | '/' :: _ => "/"
  | _ => ""

def ofText (path : String) : Location where
  root := rootOf path.toList
  names := ((namedSegments '/' path.toList).filter (· != ['.'])).map String.ofList

def text (location : Location) : String :=
  if location.root.isEmpty && location.names.isEmpty then "."
  else location.root ++ String.ofList (joinSegments (location.names.map String.toList))

def child (location : Location) (name : String) : Location :=
  { location with names := location.names ++ [name] }

end Location

end ImageStages.Text
