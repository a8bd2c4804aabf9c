import Escaping.Audit.Sink
import Escaping.Failure

/-!
Canonicalizers. A canonicalizer reduces a text to the form that every layer of encoding decodes
to. An input that was encoded repeatedly or in several ways is reported to an audit sink, and it
is blocked where policy restricts what was found.
-/

namespace Escaping

/-- A list of schemes that can all decode, none of them twice, and a sink for reports. -/
structure Canonicalizer where
  schemes : List Scheme
  sink : Sink
  nonempty : schemes ≠ []
  distinct : schemes.Nodup
  decodable : ∀ scheme ∈ schemes, scheme.canDecode = true

/-- Which conditions are restricted. A choice may be any value, and restricts its condition by
counting as true. -/
structure Policy where
  restrictMultiple : Value
  restrictMixed : Value

namespace Policy

def ofFlags (restrictMultiple restrictMixed : Bool) : Policy :=
  ⟨.boolean restrictMultiple, .boolean restrictMixed⟩

def strict : Policy := ofFlags true true

def ofChoices? : List Value → Option Policy
  | [] => some strict
  | [restrictMultiple] => some ⟨restrictMultiple, .boolean true⟩
  | [restrictMultiple, restrictMixed] => some ⟨restrictMultiple, restrictMixed⟩
  | _ => none

def restricts (policy : Policy) : Condition → Bool
  | .multiple => policy.restrictMultiple.isTruthy
  | .mixed => policy.restrictMixed.isTruthy

/-- The choice that decides on a signal: that for repeated encoding where it restricts what was
found, else that for mixed encoding where this was found. -/
def decision (policy : Policy) (signal : IntrusionSignal) : Value :=
  if signal.multiple && policy.restrictMultiple.isTruthy then policy.restrictMultiple
  else if signal.mixed then policy.restrictMixed
  else .boolean false

def blocks (policy : Policy) (signal : IntrusionSignal) : Bool :=
  (policy.decision signal).isTruthy

theorem blocks_eq (policy : Policy) (signal : IntrusionSignal) :
    policy.blocks signal
      = ((signal.multiple && policy.restricts .multiple)
        || (signal.mixed && policy.restricts .mixed)) := by
  unfold blocks decision
  cases multiple : signal.multiple <;> cases mixed : signal.mixed <;>
    cases first : policy.restrictMultiple.isTruthy <;> simp [restricts, first]

end Policy

namespace Canonicalizer

/-- The first fault of a list of schemes: each one must occur once and be able to decode. -/
def firstFault? (schemes : List Scheme) : Option ConfigurationFault :=
  if schemes.isEmpty then some .noCodec
  else schemes.findSome? fun scheme =>
    if 1 < schemes.count scheme then some (.repeatedCodec scheme schemes)
    else if !scheme.canDecode then some (.cannotDecode scheme)
    else none

theorem nonempty_of_no_fault {schemes : List Scheme} (sound : firstFault? schemes = none) :
    schemes ≠ [] := by
  rintro rfl
  simp [firstFault?] at sound

theorem sound_of_no_fault {schemes : List Scheme} (sound : firstFault? schemes = none)
    {scheme : Scheme} (member : scheme ∈ schemes) :
    schemes.count scheme ≤ 1 ∧ scheme.canDecode = true := by
  unfold firstFault? at sound
  split at sound
  · simp at sound
  · have each := List.findSome?_eq_none_iff.mp sound scheme member
    split at each
    · simp at each
    · next once =>
        split at each
        · simp at each
        · next decodes => exact ⟨by omega, by simpa using decodes⟩

theorem distinct_of_no_fault {schemes : List Scheme} (sound : firstFault? schemes = none) :
    schemes.Nodup := by
  rw [List.nodup_iff_count]
  intro scheme
  by_cases member : scheme ∈ schemes
  · exact (sound_of_no_fault sound member).1
  · rw [List.count_eq_zero.mpr member]
    omega

def ofSchemes (schemes : List Scheme) (sink : Sink) : Except ConfigurationFault Canonicalizer :=
  match faults : firstFault? schemes with
  | some fault => .error fault
  | none =>
      .ok ⟨schemes, sink, nonempty_of_no_fault faults, distinct_of_no_fault faults,
        fun _ member => (sound_of_no_fault faults member).2⟩

/-- Decodes a text to its canonical form. Whatever is found is reported before it is decided
upon; a restricted condition ends the call with the signal that was reported. -/
def canonicalizeText (canonicalizer : Canonicalizer) (policy : Policy) (input : Text) :
    Audited Failure Text :=
  let decoding := Decoding.all canonicalizer.schemes input
  if decoding.conditions.isEmpty then ⟨.ok decoding.text, []⟩
  else
    let signal := IntrusionSignal.ofDecoding decoding
    ⟨if policy.blocks signal then .error (.error (.intrusion signal)) else .ok decoding.text,
      canonicalizer.sink.tell ⟨signal, .text input, policy.decision signal⟩⟩

def hasLead (schemes : List Scheme) (items : List Value) : Bool :=
  schemes.any fun scheme => items.any fun item =>
    match item, scheme.codec.lead with
    | .text [point], some lead => decide (point = lead)
    | _, _ => false

/-- What keeps schemes from decoding a value that is no text. A list is looked through for leads,
and searching it like a text comes to nothing where one is found; any other value cannot be looked
through. -/
def obstacle? (schemes : List Scheme) (input : Value) : Option Misuse :=
  match input with
  | .text _ => none
  | .list items =>
      if hasLead schemes items then some (.missingOperation input.kindName (Text.ofString "find"))
      else none
  | _ => if schemes.any Scheme.canDecode then some .wrongKind else none

def passOver (scheme : Scheme) (input : Value) : Except Misuse (Value × Nat) :=
  match input, obstacle? [scheme] input with
  | .text text, _ =>
      let replaced := scheme.codec.decodePass text
      .ok (.text replaced.text, replaced.count)
  | _, some misuse => .error misuse
  | _, none => .ok (input, 0)

def decodeAll (schemes : List Scheme) (input : Value) : Except Misuse (Value × Decoding) :=
  match input, obstacle? schemes input with
  | .text text, _ =>
      let decoding := Decoding.all schemes text
      .ok (.text decoding.text, decoding)
  | _, some misuse => .error misuse
  | _, none => .ok (input, Decoding.all schemes [])

/-- Canonicalizes any value. What is absent, empty or zero stays as it is, and so does a list
without a lead in it; apart from these only texts can be canonicalized. -/
def canonicalize (canonicalizer : Canonicalizer) (policy : Policy) (input : Value) :
    Audited Failure Value :=
  if !input.isTruthy then ⟨.ok input, []⟩
  else match input, obstacle? canonicalizer.schemes input with
    | .text text, _ => (canonicalizer.canonicalizeText policy text).andThen fun canonical =>
        ⟨.ok (.text canonical), []⟩
    | _, some misuse => ⟨.error (.misuse misuse), []⟩
    | _, none => ⟨.ok input, []⟩

/-- Canonicalizes the first of some arguments under the policy that the others choose. -/
def call (canonicalizer : Canonicalizer) : List Value → Audited Failure Value
  | [] => ⟨.error (.misuse .wrongKind), []⟩
  | input :: choices =>
      match Policy.ofChoices? choices with
      | some policy => canonicalizer.canonicalize policy input
      | none => ⟨.error (.misuse .wrongKind), []⟩

end Canonicalizer

end Escaping
