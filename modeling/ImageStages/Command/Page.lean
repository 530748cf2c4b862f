import ImageStages.Command.Words

namespace ImageStages.Command

def wordsOf : List Char → List (List Char)
  | [] => []
  | c :: rest =>
      if c = ' ' then wordsOf rest
      else
        match rest, wordsOf rest with
        | [], _ => [[c]]
        | _ :: _, [] => [[c]]
        | d :: _, first :: others =>
            if d = ' ' then [c] :: first :: others else (c :: first) :: others

/-- Adds words to a line as long as they fit into the width. -/
def fillFrom (width : Nat) (line : List Char) : List (List Char) → List (List Char)
  | [] => [line]
  | word :: rest =>
      if line.length + 1 + word.length ≤ width then
        fillFrom width (line ++ ' ' :: word) rest
      else line :: fillFrom width word rest

def fillLines (width : Nat) (s : List Char) : List (List Char) :=
  match wordsOf s with
  | [] => []
  | word :: rest => fillFrom width word rest

/-- The pages of the manual: one for the command as a whole and one for each task. -/
inductive Page where
  | main | render | list
deriving DecidableEq

def helpForm : OptionForm := ⟨.help, ["-h", "--help"], false⟩

namespace Page

def tasks : List (String × Page) := [("render", .render), ("list", .list)]

def grammar : Page → Grammar
  | .main => {
      options := [
        helpForm,
        ⟨.debug, ["-d", "--debug"], false⟩,
        ⟨.trace, ["--trace"], false⟩,
        ⟨.logDirectory, ["--log-dir"], true⟩,
        ⟨.settings, ["--settings"], true⟩]
      operand := some (.remainder "command") }
  | .render => {
      options := [
        helpForm,
        ⟨.stage, ["--stage"], true⟩,
        ⟨.output, ["-o", "--output"], true⟩]
      operand := some (.single "request") }
  | .list => { options := [helpForm], operand := none }

def title : Page → String
  | .main => "stagegen"
  | .render => "stagegen render"
  | .list => "stagegen list"

def usage : Page → String
  | .main =>
      "usage: stagegen [-h] [-d] [--trace] [--log-dir LOG_DIR] [--settings SETTINGS]\n" ++
        "                \x7brender,list\x7d ...\n"
  | .render => "usage: stagegen render [-h] [--stage TYPE] [-o OUTPUT] request\n"
  | .list => "usage: stagegen list [-h]\n"

def lineWidth : Nat := 78

/-- An item with its explanation, which starts at a column of its own, on the next
line if the item reaches that column. -/
def entry (column indent : Nat) (item explanation : String) : List String :=
  let margin := String.ofList (List.replicate column ' ')
  let head := String.ofList (List.replicate indent ' ') ++ item
  let lines := (fillLines (lineWidth - column) explanation.toList).map String.ofList
  if head.length + 2 ≤ column then
    match lines with
    | [] => [head]
    | first :: others =>
        (head ++ String.ofList (List.replicate (column - head.length) ' ') ++ first) ::
          others.map (margin ++ ·)
  else head :: lines.map (margin ++ ·)

def helpEntry (column : Nat) : List String :=
  entry column 2 "-h, --help" "show this help message and exit"

/-- The page without its usage.  It tells where settings are read by default. -/
def body (settingsPath : String) : Page → List String
  | .main =>
      ["", "Render image build stage options", "",
        "positional arguments:", "  \x7brender,list\x7d"] ++
      entry 23 4 "render" "Render stages of a build request" ++
      entry 23 4 "list" "List known stage types" ++
      ["", "options:"] ++
      helpEntry 23 ++
      entry 23 2 "-d, --debug" "Enable verbose debug output" ++
      entry 23 2 "--trace" "Also log full option records" ++
      entry 23 2 "--log-dir LOG_DIR" "Write log files here" ++
      entry 23 2 "--settings SETTINGS"
        ("Settings file overriding release literals (default " ++ settingsPath ++ ")")
  | .render =>
      ["", "positional arguments:"] ++
      entry 24 2 "request" "Build request JSON file" ++
      ["", "options:"] ++
      helpEntry 24 ++
      entry 24 2 "--stage TYPE" "Only render stages of this type (repeatable)" ++
      entry 24 2 "-o OUTPUT, --output OUTPUT" "Write JSON here instead of stdout"
  | .list => ["", "options:"] ++ helpEntry 14

def help (page : Page) (settingsPath : String) : String :=
  page.usage ++ String.join ((page.body settingsPath).map (· ++ "\n"))

def misuse (page : Page) (fault : UsageFault) : Text :=
  page.usage ++ page.title ++ ": error: " ++ fault.message ++ "\n"

end Page

end ImageStages.Command
