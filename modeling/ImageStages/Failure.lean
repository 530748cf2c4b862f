import ImageStages.Document.Display

namespace ImageStages

/-! What can go wrong, by cause.

Failures come in two severities.  Invalid input was sent by the caller, who can be
told so.  A violated invariant means that the facts of the distribution do not fit
together, and nothing may be rendered.  A mishap is neither: an unchecked value
was used for what it is not. -/

inductive Severity where
  | invalidInput
  | invariant
  | general
deriving DecidableEq

inductive InvalidInput where
  | general (details : List Document)
  | identifier (value reason : Document)
  | password (user reason : Document)
  | request (message field : Document)
  | unknownStage (stageType : Document)

inductive InvariantViolation where
  | general (details : List Document)
  | missingPartition (stageType mountpoint : Document)
  | filesystem (filesystemType mountpoint : Document)
  | imageFormat (format : Document)
  | architecture (arch stageType : Document)
  | device (deviceType : Document)

inductive FileTrouble where
  | missing
  | isDirectory
  | notDirectory
  | exists
  | nameTooLong
deriving DecidableEq

structure FileError where
  trouble : FileTrouble
  path : String
deriving DecidableEq

inductive EncodingFault where
  | invalidStart
  | invalidContinuation
  | unexpectedEnd
deriving DecidableEq

structure EncodingError where
  fault : EncodingFault
  octet : UInt8
  start : Nat
  length : Nat
deriving DecidableEq

inductive Mishap where
  | noMember (kind : Kind) (member : String)
  | notIterable (kind : Kind)
  | notContainer (kind : Kind)
  | notSubscriptable (kind : Kind)
  | listIndexedByName
  | textIndexedByName
  | missingKey (key : Scalar)
  | unhashable (kind : Kind)
  | notNumeric (kind : Kind)
  | badLiteral (base : Nat) (literal : Text)
  | tooManyDigits (count : Nat)
  | notANumber
  | infinite
  | outOfRange (reason : String)
  | zeroModulus
  | notQuotable (kind : Kind)
  | notJoinable (kind : Kind)
  | notSecret (kind : Kind)
  | nulInPath
  | encoding (error : EncodingError)
  | file (error : FileError)

inductive Failure where
  | general (details : List Document)
  | invalid (cause : InvalidInput)
  | invariant (cause : InvariantViolation)
  | mishap (cause : Mishap)

def literalQuotationLimit : Nat := 200

def decimalDigitLimit : Nat := 4300

def messageOfDetails : List Document → Text
  | [] => ""
  | [detail] => detail.inText
  | details => Document.quotedGroup details

namespace FileTrouble

def code : FileTrouble → Nat
  | .missing => 2
  | .exists => 17
  | .notDirectory => 20
  | .isDirectory => 21
  | .nameTooLong => 36

def description : FileTrouble → String
  | .missing => "No such file or directory"
  | .exists => "File exists"
  | .notDirectory => "Not a directory"
  | .isDirectory => "Is a directory"
  | .nameTooLong => "File name too long"

def label : FileTrouble → String
  | .missing => "FileNotFoundError"
  | .exists => "FileExistsError"
  | .notDirectory => "NotADirectoryError"
  | .isDirectory => "IsADirectoryError"
  | .nameTooLong => "OSError"

end FileTrouble

def FileError.message (error : FileError) : Text :=
  s!"[Errno {decimal error.trouble.code}] " ++ error.trouble.description ++ ": " ++
    Text.quoted error.path

namespace EncodingFault

def description : EncodingFault → String
  | .invalidStart => "invalid start byte"
  | .invalidContinuation => "invalid continuation byte"
  | .unexpectedEnd => "unexpected end of data"

end EncodingFault

/-- A fault of one octet names the octet; a longer one only where it stands. -/
def EncodingError.message (error : EncodingError) : String :=
  let place :=
    if error.length = 1 then
      "byte 0x" ++ String.ofList (Text.hexDigits 2 error.octet.toNat) ++ " in position " ++
        decimal error.start
    else
      s!"bytes in position {decimal error.start}-{decimal (error.start + error.length - 1)}"
  "'utf-8' codec can't decode " ++ place ++ ": " ++ error.fault.description

/-- What a mishap is about: a member that a value lacks, the kind of a value, a key
that is not there, the content of a value, arithmetic, or a file. -/
inductive MishapFamily where
  | member | kind | key | value | arithmetic | file
deriving DecidableEq

namespace Mishap

def family : Mishap → MishapFamily
  | .noMember _ _ => .member
  | .missingKey _ => .key
  | .badLiteral _ _ | .tooManyDigits _ | .notANumber | .nulInPath | .encoding _ => .value
  | .infinite | .outOfRange _ | .zeroModulus => .arithmetic
  | .file _ => .file
  | .notIterable _ | .notContainer _ | .notSubscriptable _ | .listIndexedByName
  | .textIndexedByName | .unhashable _ | .notNumeric _ | .notQuotable _
  | .notJoinable _ | .notSecret _ => .kind

def label : Mishap → String
  | .noMember _ _ => "AttributeError"
  | .missingKey _ => "KeyError"
  | .badLiteral _ _ | .tooManyDigits _ | .notANumber | .nulInPath => "ValueError"
  | .infinite | .outOfRange _ => "OverflowError"
  | .zeroModulus => "ZeroDivisionError"
  | .encoding _ => "UnicodeDecodeError"
  | .file error => error.trouble.label
  | .notIterable _ | .notContainer _ | .notSubscriptable _ | .listIndexedByName
  | .textIndexedByName | .unhashable _ | .notNumeric _ | .notQuotable _
  | .notJoinable _ | .notSecret _ => "TypeError"

def message : Mishap → Text
  | .noMember kind member => s!"'{kind.name}' object has no attribute '{member}'"
  | .notIterable kind => s!"'{kind.name}' object is not iterable"
  | .notContainer kind => s!"argument of type '{kind.name}' is not iterable"
  | .notSubscriptable kind => s!"'{kind.name}' object is not subscriptable"
  | .listIndexedByName => "list indices must be integers or slices, not str"
  | .textIndexedByName => "string indices must be integers, not 'str'"
  | .missingKey key => key.quoted
  | .unhashable kind => s!"unhashable type: '{kind.name}'"
  | .notNumeric kind =>
      "int() argument must be a string, a bytes-like object or a real number, not " ++
        s!"'{kind.name}'"
  | .badLiteral base literal =>
      s!"invalid literal for int() with base {decimal base}: " ++
        (Text.quoted literal).take literalQuotationLimit
  | .tooManyDigits count =>
      s!"Exceeds the limit ({decimal decimalDigitLimit} digits) for integer string conversion: " ++
        s!"value has {decimal count} digits; use sys.set_int_max_str_digits() to increase the limit"
  | .notANumber => "cannot convert float NaN to integer"
  | .infinite => "cannot convert float infinity to integer"
  | .outOfRange reason => reason
  | .zeroModulus => "integer modulo by zero"
  | .notQuotable kind => s!"expected string or bytes-like object, got '{kind.name}'"
  | .notJoinable kind =>
      s!"join() argument must be str, bytes, or os.PathLike object, not '{kind.name}'"
  | .notSecret .null => "secret must be str or bytes, not None"
  | .notSecret kind => s!"secret must be str or bytes, not {kind.name}"
  | .nulInPath => "embedded null byte"
  | .encoding error => error.message
  | .file error => error.message

/-- A mishap in the form in which other messages quote it. -/
def quoted (mishap : Mishap) : Text :=
  mishap.label ++ "(" ++
    (match mishap with
      | .missingKey key => key.quoted
      | other => Text.quoted other.message) ++ ")"

end Mishap

namespace InvalidInput

def label : InvalidInput → String
  | .general _ => "InvalidInputError"
  | .identifier _ _ => "InvalidIdentifierError"
  | .password _ _ => "PasswordHashError"
  | .request _ _ => "InvalidRequestError"
  | .unknownStage _ => "UnknownStageError"

def message : InvalidInput → Text
  | .general details => messageOfDetails details
  | .identifier value reason =>
      "Invalid identifier: " ++ value.quoted ++
        (if reason.given then ": " ++ reason.inText else "")
  | .password user reason =>
      "Cannot hash password for user " ++ user.inText ++ ": " ++ reason.inText
  | .request message _ => message.inText
  | .unknownStage stageType => "Unknown stage type: " ++ stageType.inText

def attributes : InvalidInput → List (Text × Document)
  | .general _ => []
  | .identifier value reason => [("value", value), ("reason", reason)]
  | .password user reason => [("user_name", user), ("reason", reason)]
  | .request _ field => [("field", field)]
  | .unknownStage stageType => [("stage_type", stageType)]

end InvalidInput

namespace InvariantViolation

def label : InvariantViolation → String
  | .general _ => "InvariantViolationError"
  | .missingPartition _ _ => "MissingPartitionError"
  | .filesystem _ _ => "UnsupportedFilesystemError"
  | .imageFormat _ => "UnsupportedFormatError"
  | .architecture _ _ => "UnsupportedArchitectureError"
  | .device _ => "InvalidDeviceError"

def message : InvariantViolation → Text
  | .general details => messageOfDetails details
  | .missingPartition stageType mountpoint =>
      "No partition mounted at " ++ mountpoint.inText ++ " found for " ++ stageType.inText ++
        " stage"
  | .filesystem filesystemType mountpoint =>
      "Unknown filesystem type: " ++ filesystemType.inText ++
        (if mountpoint.given then " (mountpoint " ++ mountpoint.inText ++ ")" else "")
  | .imageFormat format => "Unknown format in qemu stage: " ++ format.inText
  | .architecture arch stageType =>
      "Unsupported architecture: " ++ arch.inText ++
        (if stageType.given then " for " ++ stageType.inText ++ " stage" else "")
  | .device deviceType =>
      "Copy stage requires a loopback device, got " ++
        (deviceType.orElse (.text "(none)")).inText

def attributes : InvariantViolation → List (Text × Document)
  | .general _ => []
  | .missingPartition stageType mountpoint =>
      [("stage_type", stageType), ("mountpoint", mountpoint)]
  | .filesystem filesystemType mountpoint =>
      [("fs_type", filesystemType), ("mountpoint", mountpoint)]
  | .imageFormat format => [("image_format", format)]
  | .architecture arch stageType => [("arch", arch), ("stage_type", stageType)]
  | .device deviceType => [("device_type", deviceType)]

end InvariantViolation

namespace Failure

def label : Failure → String
  | .general _ => "StageGenError"
  | .invalid cause => cause.label
  | .invariant cause => cause.label
  | .mishap cause => cause.label

def message : Failure → Text
  | .general details => messageOfDetails details
  | .invalid cause => cause.message
  | .invariant cause => cause.message
  | .mishap cause => cause.message

def severity? : Failure → Option Severity
  | .general _ => some .general
  | .invalid _ => some .invalidInput
  | .invariant _ => some .invariant
  | .mishap _ => none

def attributes : Failure → List (Text × Document)
  | .general _ => []
  | .invalid cause => cause.attributes
  | .invariant cause => cause.attributes
  | .mishap _ => []

def badRequest (message : Text) (field : Option String) : Failure :=
  .invalid (.request (.text message) (match field with
    | some name => .text name
    | none => .null))

end Failure

end ImageStages
