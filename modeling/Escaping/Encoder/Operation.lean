import Escaping.Encoder.Basic

/-!
The operations of an encoder as values, and what performing one gives: a value or a failure, and
the audit events on the way.
-/

namespace Escaping

inductive Operation where
  | canonicalize (input restrictMultiple restrictMixed : Value)
  | encode (context : Context) (value : Value)
  | encodeForLdap (value : Value) (encodeWildcards : Bool)
  | encodeForUrl (value : Value)
  | encodeForBase64 (data : Value) (wrap : Bool)
  | encodeUnsafe (method : UnsafeMethod) (codec value : Value)
  | decodeForHtml (value : Value)
  | decodeFromJson (value : Value)
  | decodeFromUrl (value : Value)
  | decodeFromBase64 (value : Value)
  | canonicalizeUri (value : Value)

/-- How the arguments of a method are read as an operation. A wrong count of them gives none. -/
abbrev Method := List Value → Option Operation

namespace Method

def ofValue (operation : Value → Operation) : Method
  | [value] => some (operation value)
  | _ => none

/-- A method that takes a value and a choice, which may be left out. -/
def ofChoice (usual : Bool) (operation : Value → Bool → Operation) : Method
  | [value] => some (operation value usual)
  | [value, choice] => some (operation value choice.isTruthy)
  | _ => none

def ofCodec (method : UnsafeMethod) : Method
  | [codec, value] => some (.encodeUnsafe method codec value)
  | _ => none

/-- Canonicalizing takes two choices, both of which may be left open. -/
def canonicalize : Method
  | [input] => some (.canonicalize input .absent .absent)
  | [input, restrictMultiple] => some (.canonicalize input restrictMultiple .absent)
  | [input, restrictMultiple, restrictMixed] =>
      some (.canonicalize input restrictMultiple restrictMixed)
  | _ => none

end Method

namespace Encoder

/-- Works on the text of a value; an absent value gives an absent result. -/
def onText (value : Value) (work : Text → Audited Failure Value) : Audited Failure Value :=
  match value.text? with
  | none => ⟨.ok .absent, []⟩
  | some text => work text

def pureOnText (value : Value) (work : Text → Except Failure Value) : Audited Failure Value :=
  onText value fun text => .ofExcept (work text)

def textResult (audited : Audited Failure Text) : Audited Failure Value :=
  audited.andThen fun text => ⟨.ok (.text text), []⟩

def perform (encoder : Encoder) : Operation → Audited Failure Value
  | .canonicalize input restrictMultiple restrictMixed =>
      encoder.canonicalizer.canonicalize
        (encoder.policyFor restrictMultiple restrictMixed) input
  | .encode context value => pureOnText value fun text => .ok (.text (context.encode text))
  | .encodeForLdap value encodeWildcards =>
      pureOnText value fun text => .ok (.text (Ldap.encodeFilter text encodeWildcards))
  | .encodeForUrl value =>
      pureOnText value fun text =>
        ((encodeForUrl text).map Value.text).mapError Failure.ofEncodingFault
  | .encodeForBase64 data wrap =>
      match data with
      | .absent => ⟨.ok .absent, []⟩
      | data => .ofExcept ((encodeForBase64 data wrap).map Value.text)
  | .encodeUnsafe method codec value => .ofExcept (encoder.encodeUnsafe method codec value)
  | .decodeForHtml value => pureOnText value fun text => .ok (.text (Html.textContent text))
  | .decodeFromJson value => pureOnText value fun text => .ok (.text (Json.codec.decode text))
  | .decodeFromUrl value => onText value fun text => textResult (encoder.decodeFromUrl text)
  | .decodeFromBase64 value =>
      pureOnText value fun text =>
        ((decodeFromBase64 text).map Value.octets).mapError Failure.ofEncodingFault
  | .canonicalizeUri value => onText value fun text => textResult (encoder.canonicalizeUri text)

@[simp] theorem perform_encode_text (encoder : Encoder) (context : Context) (text : Text) :
    encoder.perform (.encode context (.text text)) = ⟨.ok (.text (context.encode text)), []⟩ := rfl

@[simp] theorem perform_decodeForHtml_text (encoder : Encoder) (markup : Text) :
    encoder.perform (.decodeForHtml (.text markup)) = ⟨.ok (.text (Html.textContent markup)), []⟩ :=
  rfl

@[simp] theorem perform_decodeFromJson_text (encoder : Encoder) (literal : Text) :
    encoder.perform (.decodeFromJson (.text literal))
      = ⟨.ok (.text (Json.codec.decode literal)), []⟩ := rfl

def call (encoder : Encoder) (method : Method) (arguments : List Value) : Audited Failure Value :=
  match method arguments with
  | some operation => encoder.perform operation
  | none => ⟨.error (.misuse .wrongKind), []⟩

/-- An encoder has no methods but its own. -/
def unknownMethod (name : Text) : Misuse := .missingOperation (Text.ofString "Encoder") name

end Encoder

end Escaping
