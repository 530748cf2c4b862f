import ImageStages.Template.Conversion

namespace ImageStages.Template

/-- Fills the rest of a template, whose length is at most `fuel`.  A percent sign
right after a percent sign stands for itself. -/
def fillFrom (fuel : Nat) (reading : Reading) : Except Fault Text :=
  match fuel, reading.rest with
  | _, [] =>
      if reading.argument.used || reading.argument.isMapping then .ok []
      else .error .unusedArgument
  | 0, _ => .ok []
  | fuel + 1, .char '%' :: .char '%' :: rest =>
      (fillFrom fuel (reading.advance rest)).map (.char '%' :: ·)
  | fuel + 1, .char '%' :: rest => do
      let (directive, reading) ← readDirective (reading.advance rest)
      let (value, argument) ← reading.argument.take
      let converted ← convert directive value
      let tail ← fillFrom fuel { reading with argument }
      return layOut directive converted ++ tail
  | fuel + 1, c :: rest =>
      (fillFrom fuel (reading.advance rest)).map (c :: ·)

def fill (template : Text) (argument : Document) : Except Fault Text :=
  fillFrom template.length ⟨template, template.length, Argument.ofDocument argument⟩

namespace Fault

def letterName (letter : CodePoint) : Text :=
  [if 0x1f ≤ letter.toNat ∧ letter.toNat ≤ 0x7e then letter else '?']

def message : Fault → Text
  | .unusedArgument => "not all arguments converted during string formatting"
  | .missingArgument => "not enough arguments for format string"
  | .incomplete => "incomplete format"
  | .incompleteKey => "incomplete format key"
  | .needsMapping => "format requires a mapping"
  | .starNeedsInteger => "* wants int"
  | .widthTooBig => "width too big"
  | .precisionTooBig => "precision too big"
  | .unknownConversion letter index =>
      "unsupported format character '" ++ letterName letter ++
        s!"' (0x{String.ofList (Nat.toDigits 16 letter.toNat)}) at index {decimal index}"
  | .needsNumber letter kind =>
      "%" ++ letterName letter ++ s!" format: a real number is required, not {kind.name}"
  | .needsInteger letter kind =>
      "%" ++ letterName letter ++ s!" format: an integer is required, not {kind.name}"
  | .needsReal kind => s!"must be real number, not {kind.name}"
  | .needsCharacter => "%c requires int or char"
  | .notFormatting left right =>
      s!"unsupported operand type(s) for %: '{left.name}' and '{right.name}'"
  | .mishap cause => cause.message

end Fault

end ImageStages.Template
