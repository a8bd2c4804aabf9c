import Escaping.Proofs.Canonical.Layers
import Escaping.Proofs.Encoder.Confinement
import Escaping.Proofs.Encoder.Reporting

/-!
URL components there and back. An encoded component is one layer of percent-encoding without a stray
percent sign, and decoding canonicalizes it. The layer itself is no intrusion, but any escape of the
default schemes in what was encoded is counted on top of it. So the texts that come back are exactly
those that hold no escape, and all others are blocked.
-/

namespace Escaping

namespace Percent

theorem escapeRun_eq (run : Text) :
    escapeRun run = run.flatMap (OctetRun.escape percent .upperDigit) := by
  rw [escapeRun, Utf8.encode, List.flatMap_assoc]
  rfl

/-- A character on its own is written as it is in the run of its neighbours. -/
theorem encodePoint_eq (point : CodePoint) :
    codec.encodePoint otherUnreserved point
      = if isUnreserved point then [point] else OctetRun.escape percent .upperDigit point := by
  unfold Codec.encodePoint isUnreserved
  by_cases kept : point ∈ otherUnreserved
  · simp [kept]
  · rw [if_neg kept]
    cases plain : point.isAlphanumeric with
    | true => simp [codec, escape_of_alphanumeric plain]
    | false => simp [codec, escape_of_not_alphanumeric plain, kept]

theorem encode_of_reserved {run : Text} (reserved : ∀ point ∈ run, isUnreserved point = false) :
    codec.encode otherUnreserved run = escapeRun run := by
  rw [escapeRun_eq, Codec.encode, List.flatMap_def, List.flatMap_def]
  apply congrArg
  apply List.map_congr_left
  intro point member
  rw [encodePoint_eq, if_neg (Bool.eq_false_iff.mp (reserved point member))]

/-- Encoding by runs comes to the same as encoding one character after the other. -/
theorem encodeRuns_eq (text : Text) : encodeRuns text = codec.encode otherUnreserved text := by
  fun_induction encodeRuns text with
  | case1 => rfl
  | case2 head tail unreserved induction =>
      rw [Codec.encode_cons, encodePoint_eq, if_pos unreserved, induction]
      rfl
  | case3 head tail reserved induction =>
      have split : head :: tail
          = (head :: tail.takeWhile fun point => !isUnreserved point)
            ++ tail.dropWhile fun point => !isUnreserved point := by
        rw [List.cons_append, List.takeWhile_append_dropWhile]
      rw [split, Codec.encode_append, ← induction, encode_of_reserved]
      intro point member
      rcases List.mem_cons.mp member with rfl | later
      · exact Bool.eq_false_iff.mpr reserved
      · have kept := List.all_eq_true.mp List.all_takeWhile point later
        simpa using kept

theorem decode_encodeRuns {text : Text} (scalar : ∀ point ∈ text, point.isSurrogate = false) :
    codec.decode (encodeRuns text) = text := by
  have read := decode_encode_append (by decide : percent ∉ otherUnreserved)
    (fun point member _ => scalar point member) []
  rwa [List.append_nil, ← encodeRuns_eq, Codec.decode_nil, List.append_nil] at read

/-- Where every percent sign starts an escape, none is stray. -/
theorem stray?_of_escapes {text : Text}
    (escapes : ∀ start, text[start]? = some percent →
      ∃ body, Text.IsHex 2 body ∧ percent :: body <+: text.drop start) :
    stray? text = none := by
  induction text with
  | nil => rfl
  | cons head tail induction =>
      have later : stray? tail = none := induction fun start found => escapes (start + 1) found
      rw [stray?, later, if_neg]
      · rfl
      · intro stray
        rcases stray with ⟨rfl, malformed⟩
        rcases escapes 0 rfl with ⟨body, digits, rest, held⟩
        match body, digits with
        | [high, low], digits =>
            cases held
            simp [startsEscape, digits.isHexDigit] at malformed
        | [], digits => cases digits.length_eq
        | [_], digits => cases digits.length_eq
        | _ :: _ :: _ :: _, digits => cases digits.length_eq

theorem stray?_encodeRuns (text : Text) : stray? (encodeRuns text) = none :=
  stray?_of_escapes (confined_encodeRuns text).escapes

/-- The other default schemes find no escape in a percent-encoded text. -/
theorem plain_encodeRuns {scheme : Scheme} (known : scheme ∈ Scheme.defaults)
    (different : scheme ≠ .percent) (text : Text) : scheme.codec.Plain (encodeRuns text) := by
  apply Codec.plain_of_lead_not_mem
  intro lead leads written
  have outside : ¬lead.AlphanumericOr (percent :: otherUnreserved) := by
    rcases Scheme.eq_of_mem_defaults known with rfl | rfl | rfl
    · cases leads
      decide
    · exact absurd rfl different
    · cases leads
      decide
  exact outside ((confined_encodeRuns text).alphabet lead written)

/-- A text whose encoding holds no escape was not changed by it. -/
theorem encodeRuns_of_plain {text : Text} (scalar : ∀ point ∈ text, point.isSurrogate = false)
    (plain : codec.Plain (encodeRuns text)) : encodeRuns text = text := by
  have same := (Codec.decodePass_eq_self_iff codec _).mpr plain
  have read := decode_encodeRuns scalar
  rw [Codec.decode, same] at read
  exact read

end Percent

section Component

variable {text : Text}

theorem settled_encodeRuns (plain : Scheme.percent.codec.Plain (Percent.encodeRuns text)) :
    Settled Scheme.defaults (Percent.encodeRuns text) := by
  intro scheme known
  by_cases own : scheme = .percent
  · rw [own]
    exact plain
  · exact Percent.plain_encodeRuns known own text

/-- The layer comes off in the turn of percent-encoding, with that of JavaScript still to come. -/
theorem Pass.run_encodeRuns (scalar : ∀ point ∈ text, point.isSurrogate = false)
    (escaped : ¬Scheme.percent.codec.Plain (Percent.encodeRuns text)) :
    run Scheme.defaults (Percent.encodeRuns text)
      = ⟨(run [.javaScript] text).text, .percent :: (run [.javaScript] text).matched⟩ := by
  have markup : Scheme.html.codec.Plain (Percent.encodeRuns text) :=
    Percent.plain_encodeRuns (by decide) (by decide) text
  have read : Scheme.percent.codec.decode (Percent.encodeRuns text) = text :=
    Percent.decode_encodeRuns scalar
  rw [Scheme.defaults, run_cons_of_plain markup, run_cons_of_not_plain escaped, read]

namespace Decoding

variable (scalar : ∀ point ∈ text, point.isSurrogate = false)
include scalar

/-- The layer is all that is counted where the text itself holds no escape. -/
theorem all_encodeRuns_of_settled (settled : Settled Scheme.defaults text) :
    (all Scheme.defaults (Percent.encodeRuns text)).conditions = []
      ∧ (all Scheme.defaults (Percent.encodeRuns text)).text = text := by
  have nothing : Pass.run [.javaScript] text = ⟨text, []⟩ :=
    Pass.run_of_settled fun each member => settled each (List.mem_cons_of_mem _
      (List.mem_cons_of_mem _ member))
  have limit : maxPasses = 4 + 1 := rfl
  rw [conditions_all_eq_nil_iff, text_all, limit]
  by_cases plain : Scheme.percent.codec.Plain (Percent.encodeRuns text)
  · rw [Percent.encodeRuns_of_plain scalar plain, matched_of_settled settled,
      passes_of_settled settled]
    exact ⟨Nat.zero_le 1, rfl⟩
  · have matching : ¬Settled Scheme.defaults (Percent.encodeRuns text) := fun all =>
      plain (all .percent (by decide))
    rw [matched_succ, passes_of_not_settled matching, List.length_cons, Pass.textAfter_succ,
      Pass.run_encodeRuns scalar plain, nothing]
    dsimp only
    rw [matched_of_settled settled, passes_of_settled settled]
    exact ⟨Nat.le_refl 1, rfl⟩

/-- Any other escape is counted beside the layer, in the first pass or in the second one. -/
theorem conditions_all_encodeRuns_of_not_settled (matching : ¬Settled Scheme.defaults text) :
    (all Scheme.defaults (Percent.encodeRuns text)).conditions ≠ [] := by
  have escaped : ¬Scheme.percent.codec.Plain (Percent.encodeRuns text) := by
    intro plain
    have settled := settled_encodeRuns plain
    rw [Percent.encodeRuns_of_plain scalar plain] at settled
    exact matching settled
  have limit : maxPasses = 3 + 1 + 1 := rfl
  rw [Ne, conditions_all_eq_nil_iff, Nat.not_le, limit, matched_succ,
    Pass.run_encodeRuns scalar escaped, List.cons_append, List.length_cons, List.length_append]
  apply Nat.succ_lt_succ
  by_cases plain : Scheme.javaScript.codec.Plain text
  · have progress := Pass.length_matched_run_pos matching
    rw [Pass.run_cons_of_plain plain, Pass.run, matched_succ, List.length_append]
    dsimp only
    omega
  · rw [Pass.run_cons_of_not_plain plain, List.length_cons]
    omega

end Decoding

end Component

namespace Encoder

variable {encoder : Encoder} {text : Text}

theorem perform_encodeForUrl_text (scalar : ∀ point ∈ text, point.isSurrogate = false) :
    encoder.perform (.encodeForUrl (.text text))
      = ⟨.ok (.text (Percent.encodeRuns text)), []⟩ := by
  have silent : encoder.perform (.encodeForUrl (.text text))
      = ⟨(encoder.perform (.encodeForUrl (.text text))).outcome, []⟩ := rfl
  rw [silent, outcome_encodeForUrl_eq_ok_iff.mpr ⟨scalar, rfl⟩]

theorem perform_decodeFromUrl_text (careful : Percent.stray? text = none) :
    encoder.perform (.decodeFromUrl (.text text))
      = textResult ((encoder.canonicalizeText text).mapFailure urlFailure) := by
  show textResult (encoder.decodeFromUrl text) = _
  rw [decodeFromUrl, checkPercent, careful]

/-- A component comes back, without a report, exactly where it holds no escape of the default
schemes. Otherwise decoding it is refused on account of an intrusion, after one report of it. -/
theorem decodeFromUrl_encodeForUrl (sink : Sink)
    (scalar : ∀ point ∈ text, point.isSurrogate = false) :
    ∃ encoder encoded,
      make Configuration.standard none sink = .ok encoder
      ∧ encoder.perform (.encodeForUrl (.text text)) = ⟨.ok (.text encoded), []⟩
      ∧ (Settled Scheme.defaults text →
        encoder.perform (.decodeFromUrl (.text encoded)) = ⟨.ok (.text text), []⟩)
      ∧ (¬Settled Scheme.defaults text →
        ∃ report : Report, report.blocked = true
          ∧ encoder.perform (.decodeFromUrl (.text encoded))
            = ⟨.error (.error (.encoding (EncodingFault.intrusionInUrl report.signal).notice
                (some Scheme.percent.name) (some report.signal))),
              sink.tell report⟩) := by
  refine ⟨⟨.standard, .standard sink⟩, Percent.encodeRuns text, rfl,
    perform_encodeForUrl_text scalar, ?_, ?_⟩
  · intro settled
    rcases Decoding.all_encodeRuns_of_settled scalar settled with ⟨unsuspected, decoded⟩
    rw [perform_decodeFromUrl_text (Percent.stray?_encodeRuns text), canonicalizeText,
      Canonicalizer.canonicalizeText_of_conditions_nil (.standard sink) _ unsuspected,
      Canonicalizer.standard, decoded]
    rfl
  · intro matching
    have suspected := Decoding.conditions_all_encodeRuns_of_not_settled scalar matching
    have restricted : ∀ condition, Configuration.standard.policy.restricts condition = true := by
      intro condition
      cases condition with
      | multiple => rfl
      | mixed => rfl
    rcases (Canonicalizer.standard sink).canonicalizeText_of_restricted restricted suspected with
      ⟨blocked, refused⟩
    refine ⟨_, blocked, ?_⟩
    rw [perform_decodeFromUrl_text (Percent.stray?_encodeRuns text), canonicalizeText, refused]
    rfl

/-- A reference is lost on the way, and a blank is not. -/
theorem decodeFromUrl_encodeForUrl_reference :
    (∃ encoder encoded, make Configuration.standard none .recording = .ok encoder
      ∧ encoder.perform (.encodeForUrl (.text (Text.ofString "&lt;"))) = ⟨.ok (.text encoded), []⟩
      ∧ ∃ report : Report, report.blocked = true
        ∧ encoder.perform (.decodeFromUrl (.text encoded))
          = ⟨.error (.error (.encoding (EncodingFault.intrusionInUrl report.signal).notice
              (some Scheme.percent.name) (some report.signal))), [.reported report]⟩)
    ∧ ∃ encoder encoded, make Configuration.standard none .recording = .ok encoder
      ∧ encoder.perform (.encodeForUrl (.text (Text.ofString "a b"))) = ⟨.ok (.text encoded), []⟩
      ∧ encoder.perform (.decodeFromUrl (.text encoded))
        = ⟨.ok (.text (Text.ofString "a b")), []⟩ := by
  have reference : ¬Settled Scheme.defaults (Text.ofString "&lt;") := by
    rw [← Pass.matched_run_eq_nil_iff]
    decide +kernel
  have blank : Settled Scheme.defaults (Text.ofString "a b") := by
    rw [← Pass.matched_run_eq_nil_iff]
    decide +kernel
  constructor
  · rcases decodeFromUrl_encodeForUrl .recording
        (by decide : ∀ point ∈ Text.ofString "&lt;", point.isSurrogate = false) with
      ⟨encoder, encoded, made, written, _, refused⟩
    exact ⟨encoder, encoded, made, written, refused reference⟩
  · rcases decodeFromUrl_encodeForUrl .recording
        (by decide : ∀ point ∈ Text.ofString "a b", point.isSurrogate = false) with
      ⟨encoder, encoded, made, written, returned, _⟩
    exact ⟨encoder, encoded, made, written, returned blank⟩

end Encoder

end Escaping
