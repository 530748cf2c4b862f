import ImageStages.Document.Access

namespace ImageStages.Medium

/-- The architectures that media can be made for. -/
inductive Architecture where
  | x86_64 | aarch64 | ppc64le | s390x
deriving DecidableEq

namespace Architecture

def name : Architecture → String
  | .x86_64 => "x86_64"
  | .aarch64 => "aarch64"
  | .ppc64le => "ppc64le"
  | .s390x => "s390x"

def all : List Architecture := [.x86_64, .aarch64, .ppc64le, .s390x]

def ofKey? (key : Scalar) : Option Architecture :=
  all.find? fun architecture => key == .text architecture.name

/-- The EFI names of the architectures that EFI media exist for. -/
def efiNames? : Architecture → Option (List Text)
  | .x86_64 => some ["IA32", "X64"]
  | .aarch64 => some ["AA64"]
  | _ => none

/-- The filter that helps xz compress machine code, where there is one. -/
def codeFilter? : Architecture → Option String
  | .x86_64 => some "x86"
  | .aarch64 => some "arm"
  | .ppc64le => some "powerpc"
  | .s390x => none

/-- Whether installer media get the legacy loader. -/
def hasLegacyLoader : Architecture → Bool
  | .x86_64 => true
  | _ => false

end Architecture

def efiNames (arch stageType : Document) : Except Failure (List Text) := do
  let key ← (arch.asKey).mapError Failure.mishap
  match (Architecture.ofKey? key).bind Architecture.efiNames? with
  | some names => return names
  | none => .error (.invariant (.architecture arch stageType))

def codeFilter (arch : Document) : Except Mishap (Option String) := do
  let key ← arch.asKey
  return (Architecture.ofKey? key).bind Architecture.codeFilter?

def hasLegacyLoader (arch : Document) : Except Mishap Bool := do
  let key ← arch.asKey
  return (Architecture.ofKey? key).any Architecture.hasLegacyLoader

end ImageStages.Medium
