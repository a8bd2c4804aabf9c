import Escaping.Proofs.Canonical.Stability
import Escaping.Proofs.Codec.QuotedForm

/-!
What input can put into a log. A rendering of a text is short and shows on one line, and the text
can be told from it unless it was cut. Names of schemes, counts and conditions show on one line as
well, so that no input, blocked or tolerated, makes a record of more than one line.
-/

namespace Escaping

namespace Snippet

/-- A rendering of a text is its quoted form or, where that is too long, the start of it with dots
behind. -/
structure Renders (text rendering : Text) : Prop where
  bounded : rendering.length ≤ 80
  onOneLine : rendering.OnOneLine
  whole : (Quoted.text text).length ≤ 80 → rendering = Quoted.text text
  shortened : 80 < (Quoted.text text).length →
    rendering = (Quoted.text text).take 77 ++ Text.ofString "..."

theorem isPrintable_cut {text : Text} (printable : text.IsPrintable) : (cut text).IsPrintable := by
  have dots : (Text.ofString "...").IsPrintable := by decide
  unfold cut
  split
  next => exact (printable.take _).append dots
  next => exact printable

theorem ofValue_text (text : Text) : ofValue (.text text) = cut (Quoted.text text) := by
  rw [ofValue, Value.quoted]

theorem renders_ofValue (text : Text) : Renders text (ofValue (.text text)) := by
  rw [ofValue_text]
  constructor
  · exact length_cut_le _
  · exact (isPrintable_cut (Quoted.isPrintable_text text)).onOneLine
  · exact fun short => if_neg (Nat.not_lt.mpr short)
  · exact fun long => if_pos long

end Snippet

/-- Of the two conditions each is detected once or not at all, repeated encoding first. -/
theorem Decoding.conditions_mem (decoding : Decoding) :
    decoding.conditions ∈ [[], [.multiple], [.mixed], [.multiple, .mixed]] := by
  unfold conditions Condition.detect
  split <;> split <;> decide

theorem Scheme.isPrintable_name (scheme : Scheme) : scheme.name.IsPrintable := by
  cases scheme <;> decide

namespace IntrusionSignal

/-- What a signal tells of a decoding shows on one line. -/
theorem isPrintable_logMessage (decoding : Decoding) :
    (ofDecoding decoding).logMessage.IsPrintable := by
  have headings : ∀ conditions ∈ [[], [.multiple], [.mixed], [.multiple, .mixed]],
      (Text.capitalized (Text.join (Text.ofString " and ")
        (conditions.map Condition.name))).IsPrintable := by
    decide +kernel
  have entries : ∀ part ∈ (ofDecoding decoding).codecs.map (fun name =>
      name ++ Text.ofString " x" ++ Text.integer ((ofDecoding decoding).countOf name)),
      part.IsPrintable := by
    intro part member
    rcases List.mem_map.mp member with ⟨name, inCodecs, rfl⟩
    rcases List.mem_map.mp inCodecs with ⟨scheme, _, rfl⟩
    exact (scheme.isPrintable_name.append (by decide)).append (Text.isPrintable_integer _)
  have heading := headings _ decoding.conditions_mem
  exact ((heading.append (by decide)).append (Text.isPrintable_join (by decide) entries)).append
    (by decide)

end IntrusionSignal

/-- A report on a text that was decoded shows on one line. -/
theorem Report.isPrintable_message {report : Report} {decoding : Decoding} {input : Text}
    (signal : report.signal = .ofDecoding decoding) (reported : report.input = .text input) :
    report.message.IsPrintable := by
  have start : (Text.ofString
      (if report.blocked then "Blocked input: " else "Tolerated input: ")).IsPrintable := by
    split <;> decide
  rw [message, signal, reported]
  exact ((start.append (IntrusionSignal.isPrintable_logMessage decoding)).append (by decide)).append
    (Snippet.renders_ofValue input).onOneLine.printable

namespace Canonicalizer

/-- Input forges no line of a log. A rendering is short, shows on one line, and tells a text from
every other unless it was cut; and with a sink that logs, each text that is reported, blocked or
tolerated, makes one record, of one line. -/
theorem logs_onOneLine :
    (∀ text, Snippet.Renders text (Snippet.ofValue (.text text)))
      ∧ (∀ left right : Text,
        (Quoted.text left).length ≤ 80 → (Quoted.text right).length ≤ 80 →
        Snippet.ofValue (.text left) = Snippet.ofValue (.text right) → left = right)
      ∧ ∀ (canonicalizer : Canonicalizer) (logger : Text),
        canonicalizer.sink = .logging logger → ∀ (policy : Policy) (input : Text),
        ∃ reports : List Report,
          reports.length
            = (if (Decoding.all canonicalizer.schemes input).conditions = [] then 0 else 1)
          ∧ (canonicalizer.canonicalize policy (.text input)).events
            = reports.map (fun report => .logged (report.record logger))
          ∧ ∀ report ∈ reports, report.input = .text input
            ∧ (report.blocked = true ↔ ∃ failure,
              (canonicalizer.canonicalize policy (.text input)).outcome = .error failure)
            ∧ (report.record logger).message.OnOneLine := by
  refine ⟨Snippet.renders_ofValue, ?_, ?_⟩
  · intro left right leftShort rightShort same
    rw [(Snippet.renders_ofValue left).whole leftShort,
      (Snippet.renders_ofValue right).whole rightShort] at same
    exact Quoted.text_injective same
  · intro canonicalizer logger logs policy input
    refine ⟨canonicalizer.reportsOn policy input, canonicalizer.length_reportsOn policy input,
      ?_, ?_⟩
    · rw [events_canonicalize_text, logs, List.map_eq_flatMap]
      rfl
    · intro report member
      rw [canonicalizer.eq_of_mem_reportsOn policy input member]
      refine ⟨rfl, ?_, (Report.isPrintable_message rfl rfl).onOneLine⟩
      rw [outcome_canonicalize_text]
      split
      next blocks => exact iff_of_true blocks ⟨_, rfl⟩
      next tolerates =>
        refine iff_of_false tolerates ?_
        rintro ⟨failure, impossible⟩
        cases impossible

/-- A blocked text with a line feed, whose rendering is cut within an escape; and two texts of which
one spells the escape that renders the other. -/
theorem logs_onOneLine_cutEscape :
    ∃ (input : Text) (report : Report),
      ((standard .standard).canonicalize .strict (.text input)).events
        = [.logged (report.record Report.auditLogger)]
      ∧ report.blocked = true
      ∧ .ofNat 0xa ∈ input
      ∧ (report.record Report.auditLogger).message.OnOneLine
      ∧ Snippet.ofValue (.text input)
        = Text.ofString "'%2526lt;\\n"
          ++ (List.replicate 6 (Text.ofString "\\U0001d173")).flatten
          ++ Text.ofString "\\U0001..."
      ∧ Snippet.ofValue (.text [.ofNat 0xa]) ≠ Snippet.ofValue (.text (Text.ofString "\\n")) := by
  let input : Text :=
    Text.ofString "%2526lt;" ++ .ofNat 0xa :: List.replicate 7 (CodePoint.ofNat 0x1d173)
  rcases logs_onOneLine with ⟨renders, tells, logs⟩
  rcases logs (standard .standard) Report.auditLogger rfl .strict input with
    ⟨reports, once, events, each⟩
  have detected : (Decoding.all (standard .standard).schemes input).conditions
      = [.multiple, .mixed] := by
    decide +kernel
  rw [detected] at once
  rcases List.length_eq_one_iff.mp once with ⟨report, rfl⟩
  rcases each report List.mem_cons_self with ⟨_, blocked, oneLine⟩
  have refused : Policy.strict.blocks
      (.ofDecoding (Decoding.all (standard .standard).schemes input)) = true := by
    rw [Policy.blocks_ofDecoding, detected]
    rfl
  have long : 80 < (Quoted.text input).length := by decide +kernel
  refine ⟨input, report, events, ?_, by decide, oneLine, ?_, ?_⟩
  · apply blocked.mpr
    rw [outcome_canonicalize_text, if_pos refused]
    exact ⟨_, rfl⟩
  · rw [(renders input).shortened long]
    decide +kernel
  · intro same
    cases tells _ _ (by decide) (by decide) same

end Canonicalizer

end Escaping
