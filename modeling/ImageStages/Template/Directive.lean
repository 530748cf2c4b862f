import ImageStages.Failure

namespace ImageStages.Template

/-! Directives of percent templates.

A directive is a percent sign, an optional key in parentheses, flags, a width, a
precision, a size letter without meaning, and the letter of a conversion.  Width
and precision may be stars, which take the next argument. -/

inductive Fault where
  | unusedArgument
  | missingArgument
  | incomplete
  | incompleteKey
  | needsMapping
  | starNeedsInteger
  | widthTooBig
  | precisionTooBig
  | unknownConversion (letter : CodePoint) (index : Nat)
  | needsNumber (letter : CodePoint) (kind : Kind)
  | needsInteger (letter : CodePoint) (kind : Kind)
  | needsReal (kind : Kind)
  | needsCharacter
  | notFormatting (left right : Kind)
  | mishap (cause : Mishap)

/-- Argument of a template: one value, which may be used once.  The key of a
directive replaces it by a field of the whole argument, unused again. -/
structure Argument where
  whole : Document
  current : Document
  used : Bool

structure Flags where
  leftAdjusted : Bool := false
  signed : Bool := false
  blankForPlus : Bool := false
  alternate : Bool := false
  zeroPadded : Bool := false
deriving DecidableEq

structure Directive where
  flags : Flags
  width : Option Nat
  precision : Option Nat
  letter : CodePoint
  index : Nat
deriving DecidableEq

/-- What is left of a template of some length, and the argument. -/
structure Reading where
  rest : Text
  length : Nat
  argument : Argument

def Reading.advance (reading : Reading) (rest : Text) : Reading :=
  { reading with rest }

def Reading.index (reading : Reading) : Nat :=
  reading.length - reading.rest.length

namespace Argument

def ofDocument (value : Document) : Argument :=
  ⟨value, value, false⟩

/-- Lists and objects can be asked for keys, and may be left unused. -/
def isMapping (argument : Argument) : Bool :=
  match argument.whole with
  | .scalar _ => false
  | _ => true

def take (argument : Argument) : Except Fault (Document × Argument) :=
  if argument.used then .error .missingArgument
  else .ok (argument.current, { argument with used := true })

def select (argument : Argument) (key : Text) : Except Fault Argument :=
  match argument.whole with
  | .scalar _ => .error .needsMapping
  | .list _ => .error (.mishap .listIndexedByName)
  | .object fields =>
      match Fields.find? fields (.text key) with
      | some value => .ok { argument with current := value, used := false }
      | none => .error (.mishap (.missingKey (.text key)))

end Argument

/-- The key of a directive and what follows its closing parenthesis; parentheses in
the key are balanced.  `depth` counts those that are open. -/
def splitKey (depth : Nat) : Text → Option (Text × Text)
  | [] => none
  | c :: rest =>
      let depth := if c = ')' then depth - 1 else if c = '(' then depth + 1 else depth
      if depth = 0 then some ([], rest)
      else (splitKey depth rest).map fun split => (c :: split.1, split.2)

def readKey (reading : Reading) : Except Fault Reading :=
  match reading.rest with
  | .char '(' :: rest =>
      if reading.argument.isMapping then
        match splitKey 1 rest with
        | none => .error .incompleteKey
        | some (key, rest) => do
            let argument ← reading.argument.select key
            return { reading.advance rest with argument }
      else .error .needsMapping
  | _ => .ok reading

def isFlag (c : CodePoint) : Bool :=
  c == '-' || c == '+' || c == ' ' || c == '#' || c == '0'

def Flags.add (flags : Flags) (c : CodePoint) : Flags :=
  if c = '-' then { flags with leftAdjusted := true }
  else if c = '+' then { flags with signed := true }
  else if c = ' ' then { flags with blankForPlus := true }
  else if c = '#' then { flags with alternate := true }
  else if c = '0' then { flags with zeroPadded := true }
  else flags

def readFlags (reading : Reading) : Flags × Reading :=
  ((reading.rest.takeWhile isFlag).foldl Flags.add {},
    reading.advance (reading.rest.dropWhile isFlag))

def widthLimit : Nat := 0x7fffffffffffffff

def precisionLimit : Nat := 0x7fffffff

/-- The value of a number in a directive, unless it passes the limit. -/
def readCount (limit : Nat) (digits : Text) : Option Nat :=
  digits.foldl (fun count digit =>
    count.bind fun count =>
      let value := digit.toNat - '0'.toNat
      if count ≤ (limit - value) / 10 then some (count * 10 + value) else none) (some 0)

def takeCount (reading : Reading) (least greatest : Int) (tooBig : String) :
    Except Fault (Int × Reading) := do
  let (value, argument) ← reading.argument.take
  let reading := { reading with argument }
  let count ←
    match value with
    | .scalar scalar =>
        match scalar.int? with
        | some count => .ok count
        | none => .error .starNeedsInteger
    | _ => .error .starNeedsInteger
  if count < least ∨ greatest < count then .error (.mishap (.outOfRange tooBig))
  else return (count, reading)

def readWidth (flags : Flags) (reading : Reading) :
    Except Fault (Flags × Option Nat × Reading) :=
  match reading.rest with
  | .char '*' :: rest => do
      let (count, reading) ← takeCount reading (-(widthLimit + 1 : Nat)) widthLimit
        "Python int too large to convert to C ssize_t"
      let flags := if count < 0 then { flags with leftAdjusted := true } else flags
      return (flags, some count.natAbs, reading.advance rest)
  | rest =>
      let digits := rest.takeWhile CodePoint.isDigit
      if digits.isEmpty then .ok (flags, none, reading)
      else
        match readCount widthLimit digits with
        | none => .error .widthTooBig
        | some width => .ok (flags, some width, reading.advance (rest.dropWhile CodePoint.isDigit))

def readPrecision (reading : Reading) : Except Fault (Option Nat × Reading) :=
  match reading.rest with
  | .char '.' :: .char '*' :: rest => do
      let (count, reading) ← takeCount reading (-(precisionLimit + 1 : Nat)) precisionLimit
        "Python int too large to convert to C int"
      return (some count.toNat, reading.advance rest)
  | .char '.' :: rest =>
      match readCount precisionLimit (rest.takeWhile CodePoint.isDigit) with
      | none => .error .precisionTooBig
      | some precision => .ok (some precision, reading.advance (rest.dropWhile CodePoint.isDigit))
  | _ => .ok (none, reading)

def dropSizeLetter : Text → Text
  | [] => []
  | c :: rest => if c = 'h' ∨ c = 'l' ∨ c = 'L' then rest else c :: rest

def readDirective (reading : Reading) : Except Fault (Directive × Reading) := do
  let reading ← readKey reading
  let (flags, reading) := readFlags reading
  let (flags, width, reading) ← readWidth flags reading
  let (precision, reading) ← readPrecision reading
  let reading := reading.advance (dropSizeLetter reading.rest)
  match reading.rest with
  | [] => .error .incomplete
  | letter :: rest =>
      return (⟨flags, width, precision, letter, reading.index⟩, reading.advance rest)

end ImageStages.Template
