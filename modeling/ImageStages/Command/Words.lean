import ImageStages.Numeral.Literal
import ImageStages.Text.Quoted

namespace ImageStages.Command

/-! The words of a command line.

An option is spelled by a dash and a letter, or by two dashes and a name that may be
cut short as long as it fits one option only.  A value stands after an equals sign,
directly after the letter, or in the next word.  Letters of options without a value
may share one dash.  After a word of two dashes there are no options. -/

inductive OptionName where
  | help | debug | trace | logDirectory | settings | stage | output
deriving DecidableEq

structure OptionForm where
  name : OptionName
  spellings : List String
  takesValue : Bool

/-- What a command line holds beside options: one word, or a word with all that
follows it. -/
inductive Operand where
  | single (name : String)
  | remainder (name : String)

def Operand.name : Operand → String
  | .single name => name
  | .remainder name => name

structure Grammar where
  options : List OptionForm
  operand : Option Operand

inductive UsageFault where
  | ambiguous (word : String) (spellings : List String)
  | uselessValue (form : OptionForm) (value : String)
  | missingValue (form : OptionForm)
  | missingOperand (name : String)
  | unknownChoice (name word : String) (choices : List String)
  | leftOver (words : List String)

def OptionForm.title (form : OptionForm) : String :=
  "/".intercalate form.spellings

def UsageFault.message : UsageFault → Text
  | .ambiguous word spellings =>
      "ambiguous option: " ++ word ++ " could match " ++ ", ".intercalate spellings
  | .uselessValue form value =>
      "argument " ++ form.title ++ ": ignored explicit argument " ++ Text.quoted value
  | .missingValue form => "argument " ++ form.title ++ ": expected one argument"
  | .missingOperand name => "the following arguments are required: " ++ name
  | .unknownChoice name word choices =>
      "argument " ++ name ++ ": invalid choice: " ++ Text.quoted word ++ " (choose from " ++
        (Text.ofString ", ").intercalate
          (choices.map fun choice : String => Text.quoted choice) ++ ")"
  | .leftOver words => "unrecognized arguments: " ++ " ".intercalate words

/-- The text that a word holds beside the spelling of an option, after an equals sign
or directly after it. -/
structure Attached where
  separated : Bool
  value : List Char

inductive Word where
  | separator
  | argument (word : String)
  | option (form : OptionForm) (long : Bool) (attached : Option Attached)
  | unknown (word : String)

def Grammar.spellings (grammar : Grammar) : List (String × OptionForm) :=
  grammar.options.flatMap fun form => form.spellings.map fun spelling => (spelling, form)

def Grammar.option? (grammar : Grammar) (spelling : List Char) : Option OptionForm :=
  (grammar.spellings.find? fun entry => entry.1.toList == spelling).map (·.2)

def splitValue (word : List Char) : List Char × Option (List Char) :=
  match word.dropWhile (· != '=') with
  | [] => (word, none)
  | _ :: value => (word.takeWhile (· != '='), some value)

def isLong (word : List Char) : Bool :=
  ['-', '-'].isPrefixOf word

def isDigits (s : List Char) : Bool :=
  !s.isEmpty && s.all fun c => (Text.digitValue? c).isSome

/-- Whether a word is a negative number, which is no option. -/
def isNegative : List Char → Bool
  | '-' :: number =>
      let number := if number.getLast? = some '\n' then number.dropLast else number
      isDigits number ||
        (match number.dropWhile fun c => (Text.digitValue? c).isSome with
          | '.' :: fraction => isDigits fraction
          | _ => false)
  | _ => false

/-- A word that starts with a dash and spells no option. -/
def strangeWord (word : List Char) : Word :=
  if isNegative word || word.contains ' ' then .argument (String.ofList word)
  else .unknown (String.ofList word)

def Grammar.readLong (grammar : Grammar) (word : List Char) : Except UsageFault Word :=
  let (cut, value) := splitValue word
  match grammar.spellings.filter fun entry => cut.isPrefixOf entry.1.toList with
  | [] => .ok (strangeWord word)
  | [(_, form)] => .ok (.option form true (value.map (⟨true, ·⟩)))
  | several => .error (.ambiguous (String.ofList word) (several.map (·.1)))

def Grammar.readShort (grammar : Grammar) (word : List Char) : Word :=
  match grammar.option? (word.take 2) with
  | some form => .option form false (some ⟨false, word.drop 2⟩)
  | none => strangeWord word

def Grammar.readDashed (grammar : Grammar) (word : List Char) : Except UsageFault Word :=
  match grammar.option? word with
  | some form => .ok (.option form (isLong word) none)
  | none =>
      match splitValue word with
      | (_, none) => if isLong word then grammar.readLong word else .ok (grammar.readShort word)
      | (spelling, some value) =>
          match grammar.option? spelling with
          | some form => .ok (.option form (isLong spelling) (some ⟨true, value⟩))
          | none => if isLong word then grammar.readLong word else .ok (grammar.readShort word)

def Grammar.readWord (grammar : Grammar) (word : String) : Except UsageFault Word :=
  match word.toList with
  | '-' :: c :: rest => grammar.readDashed ('-' :: c :: rest)
  | _ => .ok (.argument word)

def Grammar.readWords (grammar : Grammar) : List String → Except UsageFault (List Word)
  | [] => .ok []
  | word :: rest =>
      if word = "--" then .ok (.separator :: rest.map .argument)
      else do
        let first ← grammar.readWord word
        let others ← grammar.readWords rest
        return first :: others

end ImageStages.Command
