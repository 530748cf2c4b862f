import ImageStages.Command.Page
import ImageStages.Command.Reading

namespace ImageStages.Command

inductive Task where
  | list
  | render (request : String) (types : List String) (output : Option String)
deriving DecidableEq

/-- What a command line asks for. -/
structure Invocation where
  debug : Bool
  trace : Bool
  logDirectory : Option String
  settings : Option String
  task : Task
deriving DecidableEq

/-- Why a command line asks for no task: it asks for a page of the manual, or it
cannot be read. -/
inductive Instead where
  | help (page : Page)
  | misuse (page : Page) (fault : UsageFault)

def Event.isOption (event : Event) (name : OptionName) : Bool :=
  match event with
  | .option other _ => other == name
  | .operand _ => false

def valuesOf (events : List Event) (name : OptionName) : List String :=
  events.filterMap fun event =>
    match event with
    | .option other value => if other = name then value else none
    | .operand _ => none

/-- Of several values given to an option the last counts. -/
def valueOf? (events : List Event) (name : OptionName) : Option String :=
  (valuesOf events name).getLast?

def hasOption (events : List Event) (name : OptionName) : Bool :=
  events.any (·.isOption name)

def operandOf (events : List Event) : List String :=
  events.flatMap fun event =>
    match event with
    | .option _ _ => []
    | .operand words => words

/-- The words read by the grammar of a page: what was understood, and what is left
over.  A request for help counts before any later fault. -/
def readPage (page : Page) (words : List String) :
    Except Instead (List Event × List String) :=
  let reading := page.grammar.read words
  if hasOption reading.events .help then .error (.help page)
  else
    match reading.result with
    | .error fault => .error (.misuse page fault)
    | .ok remaining => .ok (reading.events, remaining)

def choosePage (word : String) : Except Instead Page :=
  match Page.tasks.find? (·.1 == word) with
  | some task => .ok task.2
  | none => .error (.misuse .main (.unknownChoice "command" word (Page.tasks.map (·.1))))

def taskOf (page : Page) (events : List Event) : Task :=
  match page with
  | .render =>
      .render ((operandOf events).head?.getD "") (valuesOf events .stage) (valueOf? events .output)
  | _ => .list

def Invocation.ofWords (words : List String) : Except Instead Invocation := do
  let (events, remaining) ← readPage .main words
  let command := operandOf events
  let page ← choosePage (command.head?.getD "")
  let (taskEvents, taskRemaining) ← readPage page command.tail
  match remaining ++ taskRemaining with
  | [] =>
      return {
        debug := hasOption events .debug
        trace := hasOption events .trace
        logDirectory := valueOf? events .logDirectory
        settings := valueOf? events .settings
        task := taskOf page taskEvents }
  | leftOver => .error (.misuse .main (.leftOver leftOver))

end ImageStages.Command
