import Escaping.Encoder.Operation
import Escaping.Proofs.Canonical.Outcome

/-!
What the calls of an encoder report. The two choices of a call are resolved against its
configuration; a call makes one report where a condition is detected and none elsewhere, and it
ends in the reported signal exactly where a detected condition is restricted. The sink has no say
in the outcome, and neither have the choices in the text that is returned.
-/

namespace Escaping

namespace Policy

theorem restricts_ofFlags (restricts : Condition → Bool) :
    (ofFlags (restricts .multiple) (restricts .mixed)).restricts = restricts := by
  funext condition
  cases condition with
  | multiple => rfl
  | mixed => rfl

/-- Where the choices are flags, so is the one that decides. -/
theorem decision_ofFlags (restrictMultiple restrictMixed : Bool) (signal : IntrusionSignal) :
    (ofFlags restrictMultiple restrictMixed).decision signal
      = .boolean ((ofFlags restrictMultiple restrictMixed).blocks signal) := by
  have flagged : ∃ flag, (ofFlags restrictMultiple restrictMixed).decision signal
      = .boolean flag := by
    unfold decision
    split
    · exact ⟨restrictMultiple, rfl⟩
    split
    · exact ⟨restrictMixed, rfl⟩
    · exact ⟨false, rfl⟩
  rcases flagged with ⟨flag, decided⟩
  rw [blocks, decided, Value.isTruthy_boolean]

end Policy

/-- What a sink that receives a report causes shows, and after it a failure that it ends in. -/
theorem Sink.tell_eq (sink : Sink) (report : Report) :
    sink.tell report
      = (sink.receive report).events
        ++ (sink.receive report).failure.toList.map fun kind => .logged (sink.failureRecord kind) := by
  rw [tell]
  cases (sink.receive report).failure with
  | none => rfl
  | some kind => rfl

/-- The two choices of a call, each of which may be left open. -/
structure Choices where
  restrictMultiple : Option Bool
  restrictMixed : Option Bool

namespace Choices

def value : Option Bool → Value
  | none => .absent
  | some flag => .boolean flag

def operation (choices : Choices) (input : Text) : Operation :=
  .canonicalize (.text input) (value choices.restrictMultiple) (value choices.restrictMixed)

/-- What is restricted under a configuration. An open first choice is made by the configuration,
and an open second one by the first, or by the configuration where both are open. -/
def restricts (choices : Choices) (configuration : Configuration) : Condition → Bool
  | .multiple => choices.restrictMultiple.getD (!configuration.allowMultiple)
  | .mixed =>
      choices.restrictMixed.getD (choices.restrictMultiple.getD (!configuration.allowMixed))

end Choices

/-- The policy of a call: both choices come down to flags. -/
def Choices.policy (choices : Choices) (configuration : Configuration) : Policy :=
  .ofFlags (choices.restricts configuration .multiple) (choices.restricts configuration .mixed)

namespace Canonicalizer

variable (canonicalizer : Canonicalizer) (policy : Policy) (input : Text)

theorem ofSchemes_withSink {schemes : List Scheme} {sink : Sink} {canonicalizer : Canonicalizer}
    (made : ofSchemes schemes sink = .ok canonicalizer) (other : Sink) :
    ofSchemes schemes other = .ok { canonicalizer with sink := other } := by
  unfold ofSchemes at made
  split at made
  next => cases made
  next sound =>
    cases made
    unfold ofSchemes
    split
    next fault faulty =>
      rw [sound] at faulty
      cases faulty
    next => rfl

variable {policy input} in
/-- Whatever is blocked has been reported, once. -/
theorem canonicalizeText_of_blocked (blocked : (canonicalizer.reportOn policy input).blocked = true) :
    canonicalizer.canonicalizeText policy input
      = ⟨.error (.error (.intrusion (canonicalizer.reportOn policy input).signal)),
        canonicalizer.sink.tell (canonicalizer.reportOn policy input)⟩ := by
  rw [blocked_reportOn] at blocked
  have suspected : (Decoding.all canonicalizer.schemes input).conditions ≠ [] := by
    intro plain
    rw [plain] at blocked
    cases blocked
  rw [canonicalizeText_eq, Policy.blocks_ofDecoding, if_pos blocked, reportsOn,
    if_neg suspected, List.flatMap_singleton]
  rfl

variable {policy input} in
theorem canonicalizeText_of_tolerated
    (tolerated : (canonicalizer.reportOn policy input).blocked = false) :
    canonicalizer.canonicalizeText policy input
      = ⟨.ok (Decoding.all canonicalizer.schemes input).text,
        (canonicalizer.reportsOn policy input).flatMap canonicalizer.sink.tell⟩ := by
  rw [blocked_reportOn, ← Policy.blocks_ofDecoding] at tolerated
  rw [canonicalizeText_eq, if_neg (Bool.eq_false_iff.mp tolerated)]

variable {policy input} in
/-- Where every condition is restricted, whatever is detected is reported once and blocked. -/
theorem canonicalizeText_of_restricted (restricted : ∀ condition, policy.restricts condition = true)
    (suspected : (Decoding.all canonicalizer.schemes input).conditions ≠ []) :
    (canonicalizer.reportOn policy input).blocked = true
      ∧ canonicalizer.canonicalizeText policy input
        = ⟨.error (.error (.intrusion (canonicalizer.reportOn policy input).signal)),
          canonicalizer.sink.tell (canonicalizer.reportOn policy input)⟩ := by
  have blocked : (canonicalizer.reportOn policy input).blocked = true := by
    rcases List.exists_mem_of_ne_nil _ suspected with ⟨condition, member⟩
    rw [blocked_reportOn]
    exact List.any_eq_true.mpr ⟨condition, member, restricted condition⟩
  exact ⟨blocked, canonicalizer.canonicalizeText_of_blocked blocked⟩

/-- A call ends in the signal of the report that blocks, or returns the decoded text. -/
theorem outcome_eq_of_reportsOn :
    (canonicalizer.canonicalize policy (.text input)).outcome
      = match (canonicalizer.reportsOn policy input).find? Report.blocked with
        | some report => .error (.error (.intrusion report.signal))
        | none => .ok (.text (Decoding.all canonicalizer.schemes input).text) := by
  rw [outcome_canonicalize_text, reportsOn, Policy.blocks_ofDecoding]
  by_cases plain : (Decoding.all canonicalizer.schemes input).conditions = []
  · rw [if_pos plain, plain]
    rfl
  · rw [if_neg plain, List.find?_singleton, blocked_reportOn]
    split
    · rfl
    · rfl

variable {canonicalizer policy input} in
theorem eq_decoded_of_returned {result : Value}
    (returned : (canonicalizer.canonicalize policy (.text input)).outcome = .ok result) :
    result = .text (Decoding.all canonicalizer.schemes input).text := by
  rw [outcome_canonicalize_text] at returned
  split at returned
  · cases returned
  · exact (Except.ok.inj returned).symm

end Canonicalizer

namespace Encoder

def withSink (encoder : Encoder) (sink : Sink) : Encoder :=
  { encoder with canonicalizer := { encoder.canonicalizer with sink := sink } }

/-- What an encoder finds in a text. -/
def decoding (encoder : Encoder) (input : Text) : Decoding :=
  Decoding.all encoder.canonicalizer.schemes input

theorem perform_operation (encoder : Encoder) (choices : Choices) (input : Text) :
    encoder.perform (choices.operation input)
      = encoder.canonicalizer.canonicalize (choices.policy encoder.configuration) (.text input) := by
  rcases choices with ⟨multiple, mixed⟩
  cases multiple with
  | none =>
      cases mixed with
      | none => rfl
      | some flag => rfl
  | some flag =>
      cases mixed with
      | none => rfl
      | some flag => rfl

/-- The schemes that an encoder is made with. -/
def schemesFor (configuration : Configuration) : Option Value → Except Failure (List Scheme)
  | none => .ok configuration.schemes
  | some codecs => resolveAll codecs

/-- An encoder is made where its codecs stand for schemes that a canonicalizer accepts. -/
theorem make_eq_ok_iff {configuration : Configuration} {codecs : Option Value} {sink : Sink}
    {encoder : Encoder} :
    make configuration codecs sink = .ok encoder
      ↔ encoder.configuration = configuration
      ∧ ∃ schemes, schemesFor configuration codecs = .ok schemes
        ∧ Canonicalizer.ofSchemes schemes sink = .ok encoder.canonicalizer := by
  have opened : make configuration codecs sink
      = (schemesFor configuration codecs).bind fun schemes =>
        ((Canonicalizer.ofSchemes schemes sink).mapError Failure.ofConfigurationFault).bind
          fun canonicalizer => .ok ⟨configuration, canonicalizer⟩ := by
    cases codecs with
    | none => rfl
    | some codecs => rfl
  rw [opened, Failure.bind_eq_ok_iff]
  constructor
  · rintro ⟨schemes, resolved, finished⟩
    rcases Failure.bind_eq_ok_iff.mp finished with ⟨canonicalizer, accepted, ⟨⟩⟩
    exact ⟨rfl, schemes, resolved, (Failure.mapError_eq_ok_iff _).mp accepted⟩
  · rintro ⟨rfl, schemes, resolved, accepted⟩
    have kept := (Failure.mapError_eq_ok_iff Failure.ofConfigurationFault).mpr accepted
    exact ⟨schemes, resolved, Failure.bind_eq_ok_iff.mpr ⟨encoder.canonicalizer, kept, rfl⟩⟩

/-- The sink has no part in making an encoder. -/
theorem make_withSink {configuration : Configuration} {codecs : Option Value} {sink : Sink}
    {encoder : Encoder} (made : make configuration codecs sink = .ok encoder) (other : Sink) :
    make configuration codecs other = .ok (encoder.withSink other) := by
  rcases make_eq_ok_iff.mp made with ⟨configured, schemes, resolved, accepted⟩
  have again := Canonicalizer.ofSchemes_withSink accepted other
  exact make_eq_ok_iff.mpr ⟨configured, schemes, resolved, again⟩

theorem events_perform_withSink (encoder : Encoder) (sink : Sink) (choices : Choices)
    (input : Text) :
    ((encoder.withSink sink).perform (choices.operation input)).events
      = (encoder.canonicalizer.reportsOn (choices.policy encoder.configuration) input).flatMap
        sink.tell := by
  rw [perform_operation, Canonicalizer.events_canonicalize_text]
  rfl

/-- A call reports once if it detects a condition and otherwise not at all. The report blocks the
input if one of the detected conditions is restricted; then the call ends in the signal that was
reported, and else it returns the decoded text. Any sink receives these reports, and if it fails
over one, that is logged; neither shows in the outcome. -/
theorem make_canonicalize_reports {configuration : Configuration} {codecs : Option Value}
    {sink : Sink} {encoder : Encoder} (made : make configuration codecs sink = .ok encoder)
    (choices : Choices) (input : Text) :
    ∃ reports : List Report,
      reports.length = (if (encoder.decoding input).conditions = [] then 0 else 1)
      ∧ (∀ report ∈ reports,
        report.signal = .ofDecoding (encoder.decoding input)
        ∧ report.input = .text input
        ∧ report.decision = .boolean report.blocked
        ∧ (report.blocked = true ↔ ∃ condition ∈ (encoder.decoding input).conditions,
          choices.restricts configuration condition = true))
      ∧ (∀ other : Sink, ∃ again, make configuration codecs other = .ok again
        ∧ (again.perform (choices.operation input)).events
          = reports.flatMap (fun report => (other.receive report).events
            ++ (other.receive report).failure.toList.map fun kind => .logged
              ⟨Text.ofString "ctxcodec.canonicalize", .error,
                Text.ofString "Audit sink " ++ other.shown ++ Text.ofString " failed", some kind⟩)
        ∧ (again.perform (choices.operation input)).outcome
          = match reports.find? Report.blocked with
            | some report => .error (.error (.intrusion report.signal))
            | none => .ok (.text (encoder.decoding input).text))
      ∧ (∀ recorder, make configuration codecs .recording = .ok recorder →
        (recorder.perform (choices.operation input)).events = reports.map .reported)
      ∧ ∀ (others : Choices) (result other : Value),
        (encoder.perform (choices.operation input)).outcome = .ok result →
        (encoder.perform (others.operation input)).outcome = .ok other → result = other := by
  rcases make_eq_ok_iff.mp made with ⟨rfl, _⟩
  refine ⟨encoder.canonicalizer.reportsOn (choices.policy encoder.configuration) input,
    encoder.canonicalizer.length_reportsOn _ input, ?_, ?_, ?_, ?_⟩
  · intro report member
    rw [encoder.canonicalizer.eq_of_mem_reportsOn _ input member]
    refine ⟨rfl, rfl, Policy.decision_ofFlags _ _ _, ?_⟩
    rw [Canonicalizer.blocked_reportOn, Choices.policy, Policy.restricts_ofFlags,
      List.any_eq_true]
    rfl
  · intro other
    refine ⟨encoder.withSink other, make_withSink made other, ?_, ?_⟩
    · rw [events_perform_withSink, funext other.tell_eq]
      rfl
    · rw [perform_operation, Canonicalizer.outcome_eq_of_reportsOn]
      rfl
  · intro recorder recording
    cases (make_withSink made .recording).symm.trans recording
    rw [events_perform_withSink, List.map_eq_flatMap]
    rfl
  · intro others result other returned otherwise
    rw [perform_operation] at returned otherwise
    exact (Canonicalizer.eq_decoded_of_returned returned).trans
      (Canonicalizer.eq_decoded_of_returned otherwise).symm

/-- A sink that fails over the one report is logged as failed, and one that records has got it. -/
theorem make_canonicalize_reports_failingSink :
    ∃ encoder recorder,
      make ⟨Scheme.defaults, true, false, []⟩
          (some (.list [.text (Text.ofString "PercentCodec"), .scheme .html])) .failing
        = .ok encoder
      ∧ make ⟨Scheme.defaults, true, false, []⟩
          (some (.list [.text (Text.ofString "PercentCodec"), .scheme .html])) .recording
        = .ok recorder
      ∧ ∃ report : Report, report.blocked = true
        ∧ (encoder.perform (Choices.operation ⟨none, none⟩ (Text.ofString "%2526lt;"))).events
          = [.logged ⟨Text.ofString "ctxcodec.canonicalize", .error,
            Text.ofString "Audit sink <FailingSink> failed", some (Text.ofString "RuntimeError")⟩]
        ∧ (recorder.perform (Choices.operation ⟨none, none⟩ (Text.ofString "%2526lt;"))).events
          = [.reported report]
        ∧ (encoder.perform (Choices.operation ⟨none, none⟩ (Text.ofString "%2526lt;"))).outcome
          = .error (.error (.intrusion report.signal)) := by
  let encoder : Encoder :=
    ⟨⟨Scheme.defaults, true, false, []⟩,
      ⟨[.percent, .html], .failing, by decide, by decide, by decide⟩⟩
  have made : make ⟨Scheme.defaults, true, false, []⟩
      (some (.list [.text (Text.ofString "PercentCodec"), .scheme .html])) .failing
        = .ok encoder := rfl
  have detected : (encoder.decoding (Text.ofString "%2526lt;")).conditions = [.multiple, .mixed] :=
    by decide +kernel
  rcases make_canonicalize_reports made ⟨none, none⟩ (Text.ofString "%2526lt;") with
    ⟨reports, once, told, called, recorded, _⟩
  rw [detected] at once
  rcases List.length_eq_one_iff.mp once with ⟨report, rfl⟩
  have blocked : report.blocked = true := by
    rw [(told report List.mem_cons_self).2.2.2, detected]
    decide
  rcases called .failing with ⟨again, madeAgain, events, outcome⟩
  cases made.symm.trans madeAgain
  rcases called .recording with ⟨recorder, recording, _⟩
  rw [List.find?_singleton, blocked] at outcome
  rw [List.flatMap_singleton] at events
  exact ⟨encoder, recorder, made, recording, report, blocked, events,
    recorded recorder recording, outcome⟩

end Encoder

end Escaping
