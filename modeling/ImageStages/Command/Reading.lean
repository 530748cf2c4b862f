import ImageStages.Command.Words

namespace ImageStages.Command

/-- What a word of the command line comes to. -/
inductive Event where
  | option (name : OptionName) (value : Option String)
  | operand (words : List String)

/-- How the word of an option ends: complete, with an option whose value is the next
word, or with letters that spell no option. -/
inductive Ending where
  | complete
  | wantsValue (form : OptionForm)
  | strange (word : String)

structure Expansion where
  events : List Event
  ending : Ending

def OptionForm.bare (form : OptionForm) : Expansion :=
  if form.takesValue then ⟨[], .wantsValue form⟩
  else ⟨[.option form.name none], .complete⟩

def OptionForm.withValue (form : OptionForm) (value : List Char) : Expansion :=
  ⟨[.option form.name (some (String.ofList value))], .complete⟩

def Expansion.after (expansion : Expansion) (form : OptionForm) : Expansion :=
  { expansion with events := .option form.name none :: expansion.events }

/-- The letter of an option with the text after it: its value, or further letters. -/
def Grammar.expandLetters (grammar : Grammar) (form : OptionForm) (separated : Bool) :
    List Char → Except UsageFault Expansion
  | [] => if form.takesValue then .ok (form.withValue []) else .error (.uselessValue form "")
  | c :: rest =>
      if form.takesValue then .ok (form.withValue (c :: rest))
      else if separated || c == '-' then
        .error (.uselessValue form (String.ofList (c :: rest)))
      else
        match grammar.option? ['-', c] with
        | none => .ok ⟨[.option form.name none], .strange (String.ofList ('-' :: c :: rest))⟩
        | some next =>
            match rest with
            | [] => .ok (next.bare.after form)
            | '=' :: value => (grammar.expandLetters next true value).map (·.after form)
            | d :: others =>
                (grammar.expandLetters next false (d :: others)).map (·.after form)

def Grammar.expand (grammar : Grammar) (form : OptionForm) (long : Bool)
    (attached : Option Attached) : Except UsageFault Expansion :=
  match attached with
  | none => .ok form.bare
  | some attached =>
      if long then
        if form.takesValue then .ok (form.withValue attached.value)
        else .error (.uselessValue form (String.ofList attached.value))
      else grammar.expandLetters form attached.separated attached.value

/-- What was understood, and the words left over or the fault that ended it. -/
structure Reading where
  events : List Event
  result : Except UsageFault (List String)

namespace Reading

def after (reading : Reading) (events : List Event) : Reading :=
  { reading with events := events ++ reading.events }

def besides (reading : Reading) (word : String) : Reading :=
  { reading with result := reading.result.map (word :: ·) }

end Reading

/-- Reads words while an operand may be pending.  `texts` are the words as they were
written. -/
def Grammar.follow (grammar : Grammar) (pending : Option Operand) :
    List (Word × String) → Reading
  | [] =>
      match pending with
      | some operand => ⟨[], .error (.missingOperand operand.name)⟩
      | none => ⟨[], .ok []⟩
  | (.option form long attached, _) :: rest =>
      match grammar.expand form long attached with
      | .error fault => ⟨[], .error fault⟩
      | .ok ⟨events, .complete⟩ => (grammar.follow pending rest).after events
      | .ok ⟨events, .strange word⟩ => ((grammar.follow pending rest).besides word).after events
      | .ok ⟨events, .wantsValue form⟩ =>
          match rest with
          | (.argument value, _) :: rest =>
              (grammar.follow pending rest).after (events ++ [.option form.name (some value)])
          | _ => ⟨[], .error (.missingValue form)⟩
  | (.unknown word, _) :: rest => (grammar.follow pending rest).besides word
  | (.argument word, text) :: rest =>
      match pending with
      | none => (grammar.follow none rest).besides word
      | some (.remainder _) => ⟨[.operand (text :: rest.map (·.2))], .ok []⟩
      | some (.single _) =>
          match rest with
          | (.separator, _) :: rest => (grammar.follow none rest).after [.operand [word]]
          | rest => (grammar.follow none rest).after [.operand [word]]
  | (.separator, text) :: rest =>
      match pending, rest with
      | some (.remainder _), (.argument _, _) :: _ =>
          ⟨[.operand (text :: rest.map (·.2))], .ok []⟩
      | some (.single _), (.argument word, _) :: rest =>
          (grammar.follow none rest).after [.operand [word]]
      | pending, rest => (grammar.follow pending rest).besides text

def Grammar.read (grammar : Grammar) (words : List String) : Reading :=
  match grammar.readWords words with
  | .error fault => ⟨[], .error fault⟩
  | .ok read => grammar.follow grammar.operand (read.zip words)

end ImageStages.Command
