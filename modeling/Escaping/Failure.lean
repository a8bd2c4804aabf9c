import Escaping.Base64
import Escaping.Canonical.IntrusionSignal
import Escaping.Text.IntegerLiteral
import Escaping.Value

/-!
Failures and their wording. An error of this library has two messages: one that is safe to show
to a user, and one for the operator that names codecs and conditions. Causes are kept apart from
their wording, which is given here once for each of them. Misuse of an argument is no such error.
-/

namespace Escaping

structure Notice where
  user : Text
  log : Text
deriving DecidableEq

/-- A notice whose log message is the user message where none, or an empty one, is given. -/
def Notice.of (user : Text) (log : Option Text) : Notice :=
  match log with
  | some message => if message.isEmpty then ⟨user, user⟩ else ⟨user, message⟩
  | none => ⟨user, user⟩

/-- The methods that have to be allowed before they can be called. -/
inductive UnsafeMethod where
  | commandArgument
  | sqlLiteral
deriving DecidableEq, Repr

namespace UnsafeMethod

def all : List UnsafeMethod := [.commandArgument, .sqlLiteral]

def name : UnsafeMethod → Text
  | .commandArgument => Text.ofString "encode_for_os"
  | .sqlLiteral => Text.ofString "encode_for_sql"

def ofName? (name : Text) : Option UnsafeMethod := all.find? fun method => method.name = name

theorem mem_all (method : UnsafeMethod) : method ∈ all := by cases method <;> decide

theorem ofName?_name (method : UnsafeMethod) : ofName? method.name = some method := by
  cases method <;> decide

end UnsafeMethod

inductive EncodingFault where
  | surrogateInUrl (found : Utf8.SurrogateRun)
  | strayPercent (position : Nat)
  | intrusionInUrl (signal : IntrusionSignal)
  | surrogateInBuffer (found : Utf8.SurrogateRun)
  | malformedBase64 (reason : Base64.Malformed)
  | notACodec (method : UnsafeMethod) (given : Value)

namespace EncodingFault

def base64Name : Text := Text.ofString "Base64Codec"

def userMessage : EncodingFault → Text
  | .surrogateInUrl _ => Text.ofString "Unable to URL encode input"
  | .strayPercent _ | .intrusionInUrl _ => Text.ofString "Invalid URL encoding"
  | .surrogateInBuffer _ => Text.ofString "Unable to encode input"
  | .malformedBase64 _ => Text.ofString "Invalid Base64 input"
  | .notACodec _ _ => Text.ofString "Invalid codec"

/-- A run of surrogates by its position: the character where it is only one, else both ends. -/
def surrogatePlace (found : Utf8.SurrogateRun) : Text :=
  match found.run with
  | [point] =>
      Text.ofString "character " ++ Quoted.text [point] ++ Text.ofString " in position "
        ++ Text.decimal found.start
  | run =>
      Text.ofString "characters in position " ++ Text.decimal found.start ++ Text.ofString "-"
        ++ Text.decimal (found.start + run.length - 1)

def logMessage : EncodingFault → Text
  | .surrogateInUrl found =>
      Text.ofString "PercentCodec: " ++ Quoted.text found.run ++ Text.ofString " at index "
        ++ Text.decimal found.start ++ Text.ofString " cannot be encoded as UTF-8"
  | .strayPercent position =>
      Text.ofString "PercentCodec: malformed escape at index " ++ Text.decimal position
  | .intrusionInUrl signal => signal.logMessage
  | .surrogateInBuffer found =>
      Text.ofString "Base64Codec: input is not encodable as UTF-8: 'utf-8' codec can't encode "
        ++ surrogatePlace found ++ Text.ofString ": surrogates not allowed"
  | .malformedBase64 reason => Text.ofString "Base64Codec: " ++ reason.message
  | .notACodec method given =>
      method.name ++ Text.ofString " needs a Codec, got " ++ given.quoted

def notice (fault : EncodingFault) : Notice := .of fault.userMessage fault.logMessage

def codecName : EncodingFault → Option Text
  | .surrogateInUrl _ | .strayPercent _ | .intrusionInUrl _ => some Scheme.percent.name
  | .surrogateInBuffer _ | .malformedBase64 _ => some base64Name
  | .notACodec _ _ => none

def cause : EncodingFault → Option IntrusionSignal
  | .intrusionInUrl signal => some signal
  | _ => none

end EncodingFault

inductive OpenFault where
  | missing
  | directory
  | notADirectory
  | nameTooLong
  /-- What else may keep a file from being opened or read, by its number and its wording. -/
  | refused (number : Nat) (reason : Text)
deriving DecidableEq

def OpenFault.message : OpenFault → Text
  | .missing => Text.ofString "[Errno 2] No such file or directory"
  | .directory => Text.ofString "[Errno 21] Is a directory"
  | .notADirectory => Text.ofString "[Errno 20] Not a directory"
  | .nameTooLong => Text.ofString "[Errno 36] File name too long"
  | .refused number reason =>
      Text.ofString "[Errno " ++ Text.decimal number ++ Text.ofString "] " ++ reason

/-- What is wrong with settings, with where they come from, or with a list of codecs. -/
inductive ConfigurationFault where
  | noCodec
  | repeatedCodec (scheme : Scheme) (schemes : List Scheme)
  | cannotDecode (scheme : Scheme)
  | unresolvedCodec (given : Value)
  | codecsNotAList
  | codecsEmpty
  | wholeBufferCodec
  | unknownCodec (given : Value)
  | duplicateCodec (scheme : Scheme)
  | notABoolean (key : Text) (given : Value)
  | methodsNotAList
  | unknownMethods (names : List Text)
  | malformedFile (path : Text)
  | unreadableFile (path : Text) (fault : OpenFault)
  | unknownTables (path : Text) (names : List Text)
  | settingsNotATable (path : Text)
  | unknownKeys (path : Text) (names : List Text)
  | notAnArray (path key : Text)
  | variableNotABoolean (name given : Text)

namespace ConfigurationFault

def listed (names : List Text) : Text := Text.join (Text.ofString ", ") names

def knownCodecs : Text := listed (Text.sorted (Scheme.all.map Scheme.name))

def message : ConfigurationFault → Text
  | .noCodec => Text.ofString "Canonicalizer needs a codec"
  | .repeatedCodec scheme schemes =>
      Text.ofString "Duplicate codec " ++ scheme.name ++ Text.ofString " in "
        ++ (Value.list (schemes.map fun each => .text each.name)).quoted
  | .cannotDecode scheme =>
      scheme.name ++ Text.ofString " cannot decode so it cannot canonicalize"
  | .unresolvedCodec given => Text.ofString "Unknown codec " ++ given.quoted
  | .codecsNotAList => Text.ofString "default_codecs must be a list of codec names"
  | .codecsEmpty => Text.ofString "default_codecs must not be empty"
  | .wholeBufferCodec =>
      EncodingFault.base64Name ++ Text.ofString " works on whole buffers and cannot canonicalize"
  | .unknownCodec given =>
      Text.ofString "Unknown codec " ++ given.quoted ++ Text.ofString "; expected one of "
        ++ knownCodecs
  | .duplicateCodec scheme =>
      Text.ofString "Duplicate codec " ++ scheme.name ++ Text.ofString " in default_codecs"
  | .notABoolean key given => key ++ Text.ofString " must be a boolean: " ++ given.quoted
  | .methodsNotAList => Text.ofString "allow_unsafe_methods must be a list of names"
  | .unknownMethods names =>
      Text.ofString "Unknown unsafe methods " ++ listed names ++ Text.ofString "; expected any of "
        ++ listed (UnsafeMethod.all.map UnsafeMethod.name)
  | .malformedFile path => Text.ofString "Invalid TOML in " ++ path
  | .unreadableFile path fault =>
      Text.ofString "Unable to read config file " ++ path ++ Text.ofString ": " ++ fault.message
        ++ Text.ofString ": " ++ Quoted.text path
  | .unknownTables path names =>
      Text.ofString "Unknown tables in " ++ path ++ Text.ofString ": " ++ listed names
  | .settingsNotATable path =>
      Text.ofString "[encoder] in " ++ path ++ Text.ofString " must be a table"
  | .unknownKeys path names =>
      Text.ofString "Unknown keys in [encoder] of " ++ path ++ Text.ofString ": " ++ listed names
  | .notAnArray path key =>
      key ++ Text.ofString " in " ++ path ++ Text.ofString " must be an array"
  | .variableNotABoolean name given =>
      name ++ Text.ofString " must be a boolean (true/false/1/0/yes/no/on/off): "
        ++ Quoted.text given

def notice (fault : ConfigurationFault) : Notice :=
  .of (Text.ofString "Invalid configuration") fault.message

/-- The value that a message quotes, if it quotes one. -/
def given? : ConfigurationFault → Option Value
  | .unresolvedCodec given | .unknownCodec given | .notABoolean _ given => some given
  | _ => none

end ConfigurationFault

inductive EscapingError where
  | general (notice : Notice)
  | intrusion (signal : IntrusionSignal)
  | encoding (notice : Notice) (codec : Option Text) (cause : Option IntrusionSignal)
  | methodNotAllowed (method : Text)
  | configuration (notice : Notice)
deriving DecidableEq

namespace EscapingError

def ofEncodingFault (fault : EncodingFault) : EscapingError :=
  .encoding fault.notice fault.codecName fault.cause

def ofConfigurationFault (fault : ConfigurationFault) : EscapingError :=
  .configuration fault.notice

def notice : EscapingError → Notice
  | .general notice => notice
  | .intrusion signal => .of IntrusionSignal.userMessage signal.logMessage
  | .encoding notice _ _ => notice
  | .methodNotAllowed method =>
      .of (Text.ofString "Method not enabled")
        (method ++ Text.ofString " is disabled by default; add it to allow_unsafe_methods to use it")
  | .configuration notice => notice

inductive Kind where
  | any
  | intrusion
  | encoding
  | methodNotAllowed
  | configuration
  /-- Faults of a value that was given, by this library's errors or by others. -/
  | badValue
deriving DecidableEq, Repr

def kind : EscapingError → Kind
  | .general _ => .any
  | .intrusion _ => .intrusion
  | .encoding _ _ _ => .encoding
  | .methodNotAllowed _ => .methodNotAllowed
  | .configuration _ => .configuration

/-- The kinds that an error of one kind belongs to, that one among them. -/
def Kind.lineage : Kind → List Kind
  | .any => [.any]
  | .intrusion => [.any, .intrusion]
  | .encoding => [.any, .encoding, .badValue]
  | .methodNotAllowed => [.any, .methodNotAllowed]
  | .configuration => [.any, .configuration, .badValue]
  | .badValue => [.badValue]

theorem Kind.mem_lineage (kind : Kind) : kind ∈ kind.lineage := by cases kind <;> decide

end EscapingError

inductive Misuse where
  /-- A value of a kind that the operation is not defined for. -/
  | wrongKind
  /-- An operation that the kind of a value is without. -/
  | missingOperation (kind operation : Text)
  | immutable
  | negativeCount
  | countTooLarge
  | bufferTooLarge
  /-- More octets than a machine has memory for; how many those are is not laid down here. -/
  | outOfMemory
  | octetOutOfRange
  | outsideCodeSpace
  | positionOutOfRange
  | undecodableFile
  | unencodablePath
  | nulInPath
  | integerTooLongToRead (digits : Nat)
  | integerTooLongToShow
  | nestedTooDeepToRead
  | nestedTooDeepToShow
  | badInteger (fault : IntegerLiteral.Fault)
  | tooFewItems (found : Nat)
  | tooManyItems
deriving DecidableEq

namespace Misuse

def longInteger : Text :=
  Text.ofString "Exceeds the limit (" ++ Text.decimal Value.maxDigits
    ++ Text.ofString " digits) for integer string conversion"

def deepNesting : Text := Text.ofString "maximum recursion depth exceeded"

def raiseLimit : Text := Text.ofString "use sys.set_int_max_str_digits() to increase the limit"

def message? : Misuse → Option Text
  | .wrongKind | .undecodableFile | .unencodablePath => none
  | .missingOperation kind operation =>
      some (Text.ofString "'" ++ kind ++ Text.ofString "' object has no attribute '" ++ operation
        ++ Text.ofString "'")
  | .immutable => some (Text.ofString "EncoderConfig is immutable")
  | .negativeCount => some (Text.ofString "negative count")
  | .countTooLarge => some (Text.ofString "cannot fit 'int' into an index-sized integer")
  | .bufferTooLarge => some (Text.ofString "byte string is too large")
  | .outOfMemory => some []
  | .octetOutOfRange => some (Text.ofString "bytes must be in range(0, 256)")
  | .outsideCodeSpace => some (Text.ofString "chr() arg not in range(0x110000)")
  | .positionOutOfRange => some (Text.ofString "string index out of range")
  | .nulInPath => some (Text.ofString "embedded null byte")
  | .integerTooLongToRead digits =>
      some (longInteger ++ Text.ofString ": value has " ++ Text.decimal digits
        ++ Text.ofString " digits; " ++ raiseLimit)
  | .integerTooLongToShow => some (longInteger ++ Text.ofString "; " ++ raiseLimit)
  | .nestedTooDeepToRead => some deepNesting
  | .nestedTooDeepToShow =>
      some (deepNesting ++ Text.ofString " while getting the repr of an object")
  | .badInteger fault => some fault.message
  | .tooFewItems found =>
      some (Text.ofString "not enough values to unpack (expected 2, got " ++ Text.decimal found
        ++ Text.ofString ")")
  | .tooManyItems => some (Text.ofString "too many values to unpack (expected 2)")

end Misuse

inductive Failure where
  | error (error : EscapingError)
  | misuse (misuse : Misuse)
deriving DecidableEq

namespace Failure

def ofEncodingFault (fault : EncodingFault) : Failure := .error (.ofEncodingFault fault)

/-- A fault whose message would quote a value that cannot be shown is a misuse instead. -/
def ofConfigurationFault (fault : ConfigurationFault) : Failure :=
  match fault.given? with
  | none => .error (.ofConfigurationFault fault)
  | some given =>
      if Value.maxLevels < given.levels then .misuse .nestedTooDeepToShow
      else if !given.hasShortIntegers then .misuse .integerTooLongToShow
      else .error (.ofConfigurationFault fault)

/-- Work in two parts succeeds where both do. -/
theorem bind_eq_ok_iff {Fault First Second : Type} {first : Except Fault First}
    {next : First → Except Fault Second} {result : Second} :
    first.bind next = .ok result ↔ ∃ value, first = .ok value ∧ next value = .ok result := by
  cases first with
  | error fault =>
      constructor
      · rintro ⟨⟩
      · rintro ⟨_, ⟨⟩, _⟩
  | ok value =>
      constructor
      · exact fun done => ⟨value, rfl, done⟩
      · rintro ⟨_, ⟨⟩, done⟩
        exact done

theorem mapError_eq_ok_iff {First Second Result : Type} {work : Except First Result}
    (change : First → Second) {result : Result} :
    work.mapError change = .ok result ↔ work = .ok result := by
  cases work with
  | error fault =>
      constructor
      · rintro ⟨⟩
      · rintro ⟨⟩
  | ok value =>
      constructor
      · rintro ⟨⟩
        rfl
      · rintro ⟨⟩
        rfl

end Failure

end Escaping
