import Escaping.Audit.Report
import Escaping.Encoder.Basic
import Escaping.Routine.Item
import Escaping.Routine.Position

/-!
Routines: functions of this library that take any values and give a value. Arguments that a routine
does not come to look at may be of any kind, and a wrong count of arguments is a misuse.
-/

namespace Escaping

abbrev Routine := List Value → Except Failure Value

namespace Routine

def ofUnary (work : Value → Except Failure Value) : Routine
  | [argument] => work argument
  | _ => .error (.misuse .wrongKind)

def ofBinary (work : Value → Value → Except Failure Value) : Routine
  | [first, second] => work first second
  | _ => .error (.misuse .wrongKind)

/-- A routine whose second argument is a choice that may be left out. -/
def ofChoice (usual : Bool) (work : Value → Bool → Except Failure Value) : Routine
  | [argument] => work argument usual
  | [argument, choice] => work argument choice.isTruthy
  | _ => .error (.misuse .wrongKind)

def plain (work : Except Misuse Value) : Except Failure Value := work.mapError Failure.misuse

/-- The octets of a text. A codec that is asked to encode in UTF-8 escapes this name. -/
def utf8Octets : Routine :=
  ofUnary fun character => plain <| match character with
    | .scheme scheme => .ok (.text (scheme.codec.encode [] (Text.ofString "UTF-8")))
    | character => do pure (.octets (Utf8.encode (← Argument.textFor "encode" character)))

def utf8Text : Routine :=
  ofUnary fun octets => plain do
    let octets ← Argument.octetsFor "decode" octets
    pure (.text (Utf8.decode octets))

def isSurrogate : Routine :=
  ofUnary fun number => plain <| match number with
    | .float number => .ok (.boolean (number.isWithin 0xd800 0xdfff))
    | number => do pure (.boolean (Utf16.isSurrogate (← Argument.integer number)))

/-- Whether a number that need not be whole lies where code points can be named by themselves. -/
def isNameable (number : Binary64) : Bool :=
  number = .notANumber ∨
    (number.isWithin 0 0x10ffff ∧ !number.isZero ∧ !number.isWithin 0xd800 0xdfff)

def safeCodePoint : Routine :=
  ofUnary fun number => plain <| match number with
    | .float number =>
        if isNameable number then .error .wrongKind else .ok (.text [.replacement])
    | number => do pure (.text [CodePoint.ofInteger (← Argument.integer number)])

/-- The base is only looked at where the digits can name a code point. -/
def codePointNumber : Routine :=
  ofBinary fun digits base => plain do
    let digits ← Argument.textFor "lstrip" digits
    match CharacterReference.literal? digits with
    | none => pure (.integer CharacterReference.pastLast)
    | some literal =>
        let base ← Argument.integer base
        let number ← (IntegerLiteral.read literal base).mapError Misuse.badInteger
        pure (.integer number)

def splitPair : Routine :=
  ofUnary fun number => plain do
    let (high, low) := Utf16.split (← Argument.integer number)
    pure (.list [.integer high, .integer low])

def joinPair : Routine :=
  ofBinary fun high low => plain do
    pure (.integer (Utf16.join (← Argument.integer high) (← Argument.integer low)))

def textContent : Routine :=
  ofUnary fun markup => plain do
    pure (.text (Html.textContent (← Argument.textFor "find" markup)))

def escapeHtml : Routine :=
  ofUnary fun character => plain do
    pure (.text (← Item.encode .html [] (.list [character])))

def encodeFilter : Routine :=
  ofChoice true fun text encodeWildcards => plain do
    pure (.text (← Item.encode .ldapFilter (Ldap.wildcards encodeWildcards) text))

/-- The ends of a text are only looked at where all of it can be escaped. -/
def encodeName : Routine :=
  ofUnary fun text => plain do
    let _ ← Item.encode .ldapName [] text
    pure (.text (Ldap.encodeName (← Argument.characters text)))

/-- What is immune is only looked at where there is something to encode. -/
def vbScriptExpression : Routine :=
  ofBinary fun text immune => plain <| match text with
    | .text [] => .ok (.text [])
    | .text text => do pure (.text (VBScript.encode (← Argument.characterSet immune) text))
    | items => do pure (.text (← Item.expression immune items))

/-- The conditions that tallies show. These are not looked at where passes were used up. -/
def conditions (counts : List (Text × Value)) (fired exhausted : Value) :
    Except Misuse (List Condition) := do
  let tally (pair : Text × Value) : Except Misuse (Text × Int) :=
    (Argument.integer pair.2).map fun count => (pair.1, count)
  let tallies ← if exhausted.isTruthy then pure [] else counts.mapM tally
  let names ← Item.all fired
  pure (Condition.detect tallies (names.map Value.shown) exhausted.isTruthy)

def escapeAt (scheme : Scheme) : Routine :=
  ofBinary fun text position => plain <|
    if !scheme.canDecode then .ok .absent
    else do
      let text ← Argument.textFor "startswith" text
      match position with
      | .absent => if Position.isMissed scheme text then .error .wrongKind else pure .absent
      | position =>
          let found ← Position.find scheme text (← Argument.integer position)
          pure ((found.map fun place => .list [.text place.text, .integer place.stop]).getD .absent)

def encodeForUrl : Routine :=
  ofUnary fun text => do
    let text ← (Argument.textFor "encode" text).mapError Failure.misuse
    ((Encoder.encodeForUrl text).map Value.text).mapError Failure.ofEncodingFault

def checkPercent : Routine :=
  ofUnary fun text => do
    let text ← (Argument.text text).mapError Failure.misuse
    ((Encoder.checkPercent text).map Value.text).mapError Failure.ofEncodingFault

/-- The components of a reference as a list; a parameter is a list of its name and value. -/
def components (uri : Uri) : Value :=
  let parameter (each : QueryParameter) : Value := .list [.text each.name, .ofText? each.value]
  .list [.ofText? uri.scheme, .ofText? uri.userInfo, .ofText? uri.host, .ofText? uri.port,
    .text uri.path, (uri.query.map fun query => .list (query.map parameter)).getD .absent,
    .ofText? uri.fragment]

def splitUri : Routine :=
  ofUnary fun text => plain do
    pure (components (.ofText (← Argument.text text)))

/-- Host and path have to be texts; the other components are taken as what they show as. -/
def joinUri : Routine
  | [scheme, userInfo, host, port, path, query, fragment] => plain do
      let query ← Argument.query query
      let host ← match host with
        | .absent => pure none
        | host => (Argument.text host).map some
      let path ← Argument.text path
      let uri : Uri := ⟨scheme.text?, userInfo.text?, host, port.text?, path, query, fragment.text?⟩
      pure (.text uri.toText)
  | _ => .error (.misuse .wrongKind)

def encodeBase64 : Routine :=
  ofChoice false fun data wrap => (Encoder.encodeForBase64 data wrap).map Value.text

def decodeBase64 : Routine :=
  ofUnary fun text => do
    let text ← (Argument.text text).mapError Failure.misuse
    ((Encoder.decodeFromBase64 text).map Value.octets).mapError Failure.ofEncodingFault

def snippet : Routine := ofUnary fun value => .ok (.text (Snippet.ofValue value))

end Routine

end Escaping
