import Escaping.Proofs.Codec.StraySign
import Escaping.Proofs.Encoder.UrlComponent

/-!
What the two operations on URL components refuse. Encoding one fails on account of the first
surrogate in it and of nothing else. Decoding one looks for a stray percent sign first, then
canonicalizes, and turns a blocked intrusion into an error of its own once it has been reported.
-/

namespace Escaping

theorem Notice.of_some (user : Text) {log : Text} (nonempty : log ≠ []) :
    Notice.of user (some log) = ⟨user, log⟩ := by
  cases log with
  | nil => exact absurd rfl nonempty
  | cons head tail => rfl

/-- How an operation on a URL component fails. -/
def Percent.refusal (user log : Text) (cause : Option IntrusionSignal) : EscapingError :=
  .encoding ⟨user, log⟩ (some (Text.ofString "PercentCodec")) cause

namespace EscapingError

theorem ofEncodingFault_surrogateInUrl (found : Utf8.SurrogateRun) :
    ofEncodingFault (.surrogateInUrl found)
      = Percent.refusal (Text.ofString "Unable to URL encode input")
        (Text.ofString "PercentCodec: " ++ Quoted.text found.run ++ Text.ofString " at index "
          ++ Text.decimal found.start ++ Text.ofString " cannot be encoded as UTF-8") none := by
  rw [ofEncodingFault, EncodingFault.notice, Notice.of_some]
  · rfl
  · exact List.append_ne_nil_of_right_ne_nil _ (by decide)

theorem ofEncodingFault_strayPercent (position : Nat) :
    ofEncodingFault (.strayPercent position)
      = Percent.refusal (Text.ofString "Invalid URL encoding")
        (Text.ofString "PercentCodec: malformed escape at index " ++ Text.decimal position)
        none := by
  rw [ofEncodingFault, EncodingFault.notice, Notice.of_some]
  · rfl
  · exact List.append_ne_nil_of_left_ne_nil (by decide) _

theorem ofEncodingFault_intrusionInUrl (signal : IntrusionSignal) :
    ofEncodingFault (.intrusionInUrl signal)
      = Percent.refusal (Text.ofString "Invalid URL encoding") signal.logMessage (some signal) := by
  rw [ofEncodingFault, EncodingFault.notice, Notice.of_some]
  · rfl
  · exact List.append_ne_nil_of_right_ne_nil _ (by decide)

end EscapingError

namespace Encoder

variable {encoder : Encoder} {text : Text}

/-- Encoding a URL component fails exactly where there is a surrogate in it, and names the first
run of them. All others come out as if they had been encoded character by character, and are read
back from that. -/
theorem encodeForUrl_exact (text : Text) :
    ((∃ error, (encodeForUrl text).mapError EscapingError.ofEncodingFault = .error error)
      ↔ ∃ point ∈ text, point.isSurrogate = true)
    ∧ (∀ error, (encodeForUrl text).mapError EscapingError.ofEncodingFault = .error error →
      ∃ found : Utf8.SurrogateRun, found.IsFirstIn text
        ∧ error = Percent.refusal (Text.ofString "Unable to URL encode input")
          (Text.ofString "PercentCodec: " ++ Quoted.text found.run ++ Text.ofString " at index "
            ++ Text.decimal found.start ++ Text.ofString " cannot be encoded as UTF-8") none)
    ∧ ((∀ point ∈ text, point.isSurrogate = false) →
      encodeForUrl text = .ok (Percent.codec.encode ['-', '.', '_', '~'] text)
      ∧ Percent.codec.decode (Percent.codec.encode ['-', '.', '_', '~'] text) = text) := by
  rw [encodeForUrl, Percent.encodeComponent, ← Utf8.exists_surrogateRun?_iff]
  cases outcome : Utf8.surrogateRun? text with
  | none =>
      have encoded := Percent.encodeRuns_eq text
      have read := Percent.decode_encodeRuns (Utf8.surrogateRun?_eq_none_iff.mp outcome)
      rw [encoded] at read
      refine ⟨iff_of_false ?_ ?_, ?_, fun _ => ⟨congrArg _ encoded, read⟩⟩
      · rintro ⟨error, impossible⟩
        cases impossible
      · rintro ⟨found, impossible⟩
        cases impossible
      · intro error impossible
        cases impossible
  | some found =>
      refine ⟨iff_of_true ⟨_, rfl⟩ ⟨found, rfl⟩, ?_, fun scalar => ?_⟩
      · intro error failed
        cases failed
        exact ⟨found, Utf8.isFirstIn_of_surrogateRun? outcome,
          EscapingError.ofEncodingFault_surrogateInUrl found⟩
      · rw [Utf8.surrogateRun?_eq_none_iff.mpr scalar] at outcome
        cases outcome

/-- The same reserved run holds characters of one, two, three and four octets. -/
theorem encodeForUrl_exact_joinedRun :
    (∃ error, (encodeForUrl ['a', .ofNat 0xd83d, .ofNat 0xde00]).mapError
      EscapingError.ofEncodingFault = .error error)
    ∧ encodeForUrl (Text.ofString "a é€😀-")
      = .ok (Percent.codec.encode ['-', '.', '_', '~'] (Text.ofString "a é€😀-")) := by
  constructor
  · exact (encodeForUrl_exact ['a', .ofNat 0xd83d, .ofNat 0xde00]).1.mpr
      ⟨.ofNat 0xd83d, by decide, by decide⟩
  · exact ((encodeForUrl_exact (Text.ofString "a é€😀-")).2.2 (by decide)).1

theorem checkPercent_fails_iff :
    (∃ fault, checkPercent text = .error fault) ↔ ∃ position, Percent.StrayAt text position := by
  rw [checkPercent]
  cases found : Percent.stray? text with
  | none =>
      have regular := Percent.stray?_eq_none_iff.mp found
      apply iff_of_false
      · rintro ⟨fault, impossible⟩
        cases impossible
      · exact fun stray => stray.elim regular
  | some position =>
      exact iff_of_true ⟨_, rfl⟩ ⟨position, (Percent.first_of_stray?_eq_some found).1⟩

theorem perform_canonicalize_text (encoder : Encoder) (text : Text) :
    encoder.perform (.canonicalize (.text text) .absent .absent)
      = textResult (encoder.canonicalizeText text) :=
  encoder.canonicalizer.canonicalize_text encoder.configuration.policy text

theorem perform_decodeFromUrl_of_stray {position : Nat}
    (found : Percent.stray? text = some position) :
    encoder.perform (.decodeFromUrl (.text text))
      = ⟨.error (.error (.ofEncodingFault (.strayPercent position))), []⟩ := by
  show textResult (encoder.decodeFromUrl text) = _
  rw [decodeFromUrl, checkPercent, found]
  rfl

/-- Without a stray percent sign there are two cases: canonicalizing is blocked, after one report, and
the signal becomes the cause of an error, or it is not and decoding comes to the same. -/
theorem perform_decodeFromUrl_cases (encoder : Encoder) (careful : Percent.stray? text = none) :
    (∃ report : Report, report.input = .text text ∧ report.decision = .boolean true
      ∧ (encoder.perform (.canonicalize (.text text) .absent .absent)).outcome
        = .error (.error (.intrusion report.signal))
      ∧ encoder.perform (.decodeFromUrl (.text text))
        = ⟨.error (.error (.ofEncodingFault (.intrusionInUrl report.signal))),
          encoder.canonicalizer.sink.tell report⟩)
    ∨ ∃ canonical,
      (encoder.perform (.canonicalize (.text text) .absent .absent)).outcome = .ok (.text canonical)
      ∧ encoder.perform (.decodeFromUrl (.text text))
        = encoder.perform (.canonicalize (.text text) .absent .absent) := by
  let report := encoder.canonicalizer.reportOn encoder.configuration.policy text
  rw [perform_decodeFromUrl_text careful, perform_canonicalize_text, canonicalizeText]
  cases blocked : report.blocked with
  | true =>
      have decided : report.decision = .boolean report.blocked := Policy.decision_ofFlags _ _ _
      rw [encoder.canonicalizer.canonicalizeText_of_blocked blocked]
      rw [blocked] at decided
      exact .inl ⟨report, rfl, decided, rfl, rfl⟩
  | false =>
      rw [encoder.canonicalizer.canonicalizeText_of_tolerated blocked]
      exact .inr ⟨_, rfl, rfl⟩

/-- Decoding a URL component names the first stray percent sign in it, without a report. Where there
is none it canonicalizes: an intrusion that is blocked has been reported once and is the cause of the
error then, and in all other cases nothing is changed. No other failure comes out. The check for
stray percent signs agrees with the pass of the codec, since it fails where a pass would keep one. -/
theorem decodeFromUrl_refusals (encoder : Encoder) (text : Text) :
    (∀ stray, Percent.StrayAt text stray → ∃ first, Percent.StrayAt text first
      ∧ (∀ before < first, ¬Percent.StrayAt text before)
      ∧ encoder.perform (.decodeFromUrl (.text text))
        = ⟨.error (.error (Percent.refusal (Text.ofString "Invalid URL encoding")
          (Text.ofString "PercentCodec: malformed escape at index " ++ Text.decimal first) none)),
          []⟩)
    ∧ ((∀ position, ¬Percent.StrayAt text position) →
      (∀ signal, (encoder.perform (.canonicalize (.text text) .absent .absent)).outcome
          = .error (.error (.intrusion signal)) →
        ∃ report : Report, report.signal = signal ∧ report.input = .text text
          ∧ report.decision = .boolean true
          ∧ encoder.perform (.decodeFromUrl (.text text))
            = ⟨.error (.error (Percent.refusal (Text.ofString "Invalid URL encoding")
              signal.logMessage (some signal))), encoder.canonicalizer.sink.tell report⟩)
      ∧ ∀ result, (encoder.perform (.canonicalize (.text text) .absent .absent)).outcome
          = .ok result →
        encoder.perform (.decodeFromUrl (.text text))
          = encoder.perform (.canonicalize (.text text) .absent .absent))
    ∧ ((∃ canonical, (encoder.perform (.decodeFromUrl (.text text))).outcome
        = .ok (.text canonical))
      ∨ ∃ user log cause, (encoder.perform (.decodeFromUrl (.text text))).outcome
        = .error (.error (Percent.refusal user log cause)))
    ∧ ∃ pieces, Percent.codec.Cuts text 0 pieces
      ∧ Percent.codec.decodePass text
        = ⟨pieces.flatMap Piece.image, pieces.countP Piece.isEscape⟩
      ∧ ((∃ fault, checkPercent text = .error fault) ↔ .kept Percent.percent ∈ pieces) := by
  refine ⟨?_, ?_, ?_, ?_⟩
  · intro stray there
    cases found : Percent.stray? text with
    | none => exact absurd there (Percent.stray?_eq_none_iff.mp found stray)
    | some first =>
        rcases Percent.first_of_stray?_eq_some found with ⟨here, regular⟩
        refine ⟨first, here, regular, ?_⟩
        rw [perform_decodeFromUrl_of_stray found, EscapingError.ofEncodingFault_strayPercent]
  · intro regular
    have careful := Percent.stray?_eq_none_iff.mpr regular
    rcases encoder.perform_decodeFromUrl_cases careful with
      ⟨report, input, decision, blocked, decoded⟩ | ⟨canonical, returned, same⟩
    · rw [blocked, decoded, EscapingError.ofEncodingFault_intrusionInUrl]
      constructor
      · intro signal raised
        cases raised
        exact ⟨report, rfl, input, decision, rfl⟩
      · exact nofun
    · rw [returned]
      exact ⟨nofun, fun _ _ => same⟩
  · cases found : Percent.stray? text with
    | some first =>
        rw [perform_decodeFromUrl_of_stray found, EscapingError.ofEncodingFault_strayPercent]
        exact .inr ⟨_, _, _, rfl⟩
    | none =>
        rcases encoder.perform_decodeFromUrl_cases found with
          ⟨report, _, _, _, decoded⟩ | ⟨canonical, returned, same⟩
        · rw [decoded, EscapingError.ofEncodingFault_intrusionInUrl]
          exact .inr ⟨_, _, _, rfl⟩
        · rw [same]
          exact .inl ⟨canonical, returned⟩
  · rcases Scheme.exists_cuts .percent text 0 (Nat.zero_le _) with ⟨pieces, cuts⟩
    refine ⟨pieces, cuts, ?_, ?_⟩
    · rw [Codec.decodePass_eq_scan rfl, ← cuts.scan_eq rfl, List.drop_zero]
    · rw [checkPercent_fails_iff, Percent.kept_mem_iff cuts]
      simp only [Nat.zero_le, true_and]

/-- The first of two percent signs is stray although the second one starts an escape. -/
theorem decodeFromUrl_refusals_doubledSign :
    ∃ encoder, make Configuration.standard none .recording = .ok encoder
      ∧ (∃ first, Percent.StrayAt (Text.ofString "%%41") first
        ∧ encoder.perform (.decodeFromUrl (.text (Text.ofString "%%41")))
          = ⟨.error (.error (Percent.refusal (Text.ofString "Invalid URL encoding")
            (Text.ofString "PercentCodec: malformed escape at index " ++ Text.decimal first)
            none)), []⟩)
      ∧ (∃ report : Report, report.decision = .boolean true
        ∧ encoder.perform (.decodeFromUrl (.text (Text.ofString "%2526lt;")))
          = ⟨.error (.error (Percent.refusal (Text.ofString "Invalid URL encoding")
            report.signal.logMessage (some report.signal))), [.reported report]⟩)
      ∧ encoder.perform (.decodeFromUrl (.text (Text.ofString "a%20b")))
        = ⟨.ok (.text (Text.ofString "a b")), []⟩ := by
  let canonicalizer := Canonicalizer.standard .recording
  have restricted : ∀ condition, Configuration.standard.policy.restricts condition = true := by
    intro condition
    cases condition with
    | multiple => rfl
    | mixed => rfl
  have suspected : (Decoding.all canonicalizer.schemes (Text.ofString "%2526lt;")).conditions ≠ [] :=
    by decide +kernel
  have plain : (Decoding.all canonicalizer.schemes (Text.ofString "a%20b")).conditions = [] := by
    decide +kernel
  have decoded : (Decoding.all canonicalizer.schemes (Text.ofString "a%20b")).text
      = Text.ofString "a b" := by decide +kernel
  rcases canonicalizer.canonicalizeText_of_restricted restricted suspected with ⟨_, blocked⟩
  have returned := canonicalizer.canonicalizeText_of_conditions_nil
    Configuration.standard.policy plain
  let encoder : Encoder := ⟨.standard, canonicalizer⟩
  refine ⟨encoder, rfl, ?_, ?_, ?_⟩
  · have stray : Percent.StrayAt (Text.ofString "%%41") 0 := ⟨by decide, by decide +kernel⟩
    rcases (decodeFromUrl_refusals encoder _).1 0 stray with ⟨first, here, _, refused⟩
    exact ⟨first, here, refused⟩
  · have regular : ∀ position, ¬Percent.StrayAt (Text.ofString "%2526lt;") position :=
      Percent.stray?_eq_none_iff.mp (by decide)
    have raised : (encoder.perform (.canonicalize (.text (Text.ofString "%2526lt;")) .absent
        .absent)).outcome = .error (.error (.intrusion (.ofDecoding
          (Decoding.all canonicalizer.schemes (Text.ofString "%2526lt;"))))) := by
      rw [perform_canonicalize_text, canonicalizeText, blocked]
      rfl
    rcases ((decodeFromUrl_refusals encoder _).2.1 regular).1 _ raised with
      ⟨report, same, _, decision, refused⟩
    rw [← same] at refused
    exact ⟨report, decision, refused⟩
  · have regular : ∀ position, ¬Percent.StrayAt (Text.ofString "a%20b") position :=
      Percent.stray?_eq_none_iff.mp (by decide)
    have performed : encoder.perform (.canonicalize (.text (Text.ofString "a%20b")) .absent
        .absent) = ⟨.ok (.text (Text.ofString "a b")), []⟩ := by
      rw [perform_canonicalize_text, canonicalizeText, returned, decoded]
      rfl
    have same := ((decodeFromUrl_refusals encoder _).2.1 regular).2 (.text (Text.ofString "a b"))
    rw [performed] at same
    exact same rfl

end Encoder

end Escaping
