import Escaping.Encoder.Context
import Escaping.Settings.Configuration
import Escaping.Uri

/-!
Encoders. An encoder encodes text for the context that it lands in, and canonicalizes input
under the policy of its configuration. Values that are no text are taken as the text that they
show as, and an absent value stays absent.
-/

namespace Escaping

structure Encoder where
  configuration : Configuration
  canonicalizer : Canonicalizer

namespace Encoder

/-- The scheme that an item of a list of codecs stands for: a codec itself or its name. -/
def resolve (item : Value) : Except Failure Scheme :=
  let unresolved : Except Failure Scheme := .error (.ofConfigurationFault (.unresolvedCodec item))
  match item with
  | .scheme scheme => .ok scheme
  | .text name =>
      match Scheme.ofName? name with
      | some scheme => .ok scheme
      | none => unresolved
  | _ => unresolved

def resolveAll (codecs : Value) : Except Failure (List Scheme) :=
  match codecs.items? with
  | some items => items.mapM resolve
  | none => .error (.misuse .wrongKind)

/-- An encoder with a configuration; codecs that are given take the place of the configured
ones. -/
def make (configuration : Configuration) (codecs : Option Value) (sink : Sink) :
    Except Failure Encoder := do
  let schemes ← match codecs with
    | none => .ok configuration.schemes
    | some codecs => resolveAll codecs
  let canonicalizer ←
    (Canonicalizer.ofSchemes schemes sink).mapError Failure.ofConfigurationFault
  pure ⟨configuration, canonicalizer⟩

/-- The policy for two choices that may be left open. The first falls back to the configured
policy, and the second to the first one if that was made. -/
def policyFor (encoder : Encoder) (restrictMultiple restrictMixed : Value) : Policy :=
  let configured := encoder.configuration.policy
  match restrictMultiple, restrictMixed with
  | .absent, .absent => configured
  | .absent, mixed => ⟨configured.restrictMultiple, mixed⟩
  | multiple, .absent => ⟨multiple, multiple⟩
  | multiple, mixed => ⟨multiple, mixed⟩

def canonicalizeText (encoder : Encoder) (text : Text) : Audited Failure Text :=
  encoder.canonicalizer.canonicalizeText encoder.configuration.policy text

def encodeForUrl (text : Text) : Except EncodingFault Text :=
  (Percent.encodeComponent text).mapError .surrogateInUrl

/-- Refuses a percent sign that starts no escape. -/
def checkPercent (text : Text) : Except EncodingFault Text :=
  match Percent.stray? text with
  | some position => .error (.strayPercent position)
  | none => .ok text

/-- The failure that an intrusion in a URL component ends in. -/
def urlFailure : Failure → Failure
  | .error (.intrusion signal) => .ofEncodingFault (.intrusionInUrl signal)
  | failure => failure

/-- Canonicalizes a component of a URL, which must hold no stray percent sign. -/
def decodeFromUrl (encoder : Encoder) (text : Text) : Audited Failure Text :=
  match checkPercent text with
  | .error fault => ⟨.error (.ofEncodingFault fault), []⟩
  | .ok text => (encoder.canonicalizeText text).mapFailure urlFailure

def canonicalizeUri (encoder : Encoder) (text : Text) : Audited Failure Text :=
  Uri.canonicalize encoder.canonicalizeText text

def bufferOfText (text : Text) : Except EncodingFault Octets :=
  (Utf8.encodeStrict text).mapError .surrogateInBuffer

/-- A count of octets has to fit into a machine word, and so has the size of their buffer, which
is a little more. -/
def countLimit : Int := 0x8000000000000000

def bufferLimit : Int := countLimit - 33

def octetOf : Value → Except Failure UInt8
  | .integer number =>
      if 0 ≤ number ∧ number < 256 then .ok (.ofNat number.toNat)
      else .error (.misuse .octetOutOfRange)
  | .boolean flag => .ok (if flag then 1 else 0)
  | _ => .error (.misuse .wrongKind)

def zeroOctets (count : Int) : Except Failure Octets :=
  if count < -countLimit ∨ countLimit ≤ count then .error (.misuse .countTooLarge)
  else if count < 0 then .error (.misuse .negativeCount)
  else if bufferLimit ≤ count then .error (.misuse .bufferTooLarge)
  else .ok (List.replicate count.toNat 0)

/-- The octets that a value stands for: itself, the UTF-8 form of a text, so many zeros, or the
numbers of a list. -/
def bufferOf : Value → Except Failure Octets
  | .octets octets => .ok octets
  | .text text => (bufferOfText text).mapError Failure.ofEncodingFault
  | .integer count => zeroOctets count
  | .boolean flag => zeroOctets (if flag then 1 else 0)
  | .list items => items.mapM octetOf
  | _ => .error (.misuse .wrongKind)

def encodeForBase64 (data : Value) (wrap : Bool) : Except Failure Text :=
  (bufferOf data).map fun octets => Base64.encodeLines octets wrap

def decodeFromBase64 (text : Text) : Except EncodingFault Octets :=
  (Base64.decode text).mapError .malformedBase64

/-- The characters that stay raw in the output of an unsafe method. -/
def unsafeImmune : UnsafeMethod → List CodePoint
  | .commandArgument => ['-']
  | .sqlLiteral => [' ']

/-- Encodes a value with a codec for a context where encoding is a last resort. The method has to
be allowed by the configuration. -/
def encodeUnsafe (encoder : Encoder) (method : UnsafeMethod) (codec value : Value) :
    Except Failure Value :=
  if !encoder.configuration.allows method then .error (.error (.methodNotAllowed method.name))
  else match codec with
    | .scheme scheme =>
        .ok (.ofText? (value.text?.map (scheme.codec.encode (unsafeImmune method))))
    | _ => .error (.ofEncodingFault (.notACodec method codec))

end Encoder

end Escaping
