import Escaping.Proofs.Canonical.Outcome

/-!
Canonical texts are stable. A call that returns although repeated encoding is restricted has decoded
to the end, so its result holds no escape of the schemes, and canonicalizing it again returns it
without a word to any sink.
-/

namespace Escaping

namespace Canonicalizer

/-- The canonicalizers of the default schemes. -/
def standard (sink : Sink) : Canonicalizer :=
  ⟨Scheme.defaults, sink, by decide, by decide, by decide⟩

variable (canonicalizer : Canonicalizer) (policy : Policy)

variable {policy} in
/-- A call that returns was not cut off if repeated encoding is restricted. -/
theorem complete_of_tolerated {decoding : Decoding}
    (restricted : policy.restricts .multiple = true)
    (tolerated : ¬policy.blocks (.ofDecoding decoding) = true) : decoding.exhausted = false := by
  apply Bool.eq_false_iff.mpr
  intro exhausted
  have multiple := (Decoding.multiple_mem_conditions_iff decoding).mpr (.inl exhausted)
  apply tolerated
  rw [Policy.blocks_ofDecoding, List.any_eq_true]
  exact ⟨.multiple, multiple, restricted⟩

/-- What a call returns is canonical: no scheme matches anywhere in it, and it is returned as it is,
unreported, under every policy and whatever the sink. -/
theorem canonicalize_stable {input : Text} {result : Value}
    (complete : policy.restricts .multiple = true
      ∨ (Decoding.all canonicalizer.schemes input).exhausted = false)
    (returned : (canonicalizer.canonicalize policy (.text input)).outcome = .ok result) :
    ∃ canonical : Text, result = .text canonical
      ∧ (∀ scheme ∈ canonicalizer.schemes,
        scheme.codec.Plain canonical ∧ scheme.codec.decodePass canonical = ⟨canonical, 0⟩)
      ∧ ∀ (again : Canonicalizer) (choice : Policy), again.schemes = canonicalizer.schemes →
        again.canonicalize choice (.text canonical) = ⟨.ok (.text canonical), []⟩ := by
  rw [outcome_canonicalize_text] at returned
  split at returned
  next => cases returned
  next tolerated =>
    have decoded : (Decoding.all canonicalizer.schemes input).exhausted = false := by
      rcases complete with restricted | decoded
      · exact complete_of_tolerated restricted tolerated
      · exact decoded
    have settled := Decoding.settled_all decoded
    refine ⟨_, (Except.ok.inj returned).symm, ?_, ?_⟩
    · intro scheme member
      have plain := settled scheme member
      exact ⟨plain, (Codec.decodePass_eq_self_iff scheme.codec _).mpr plain⟩
    · intro again choice same
      rw [canonicalize_text, canonicalizeText_of_settled again choice (same ▸ settled)]
      rfl

theorem canonicalize_stable_percentAroundHtml :
    ((standard .recording).canonicalize (.ofFlags true false)
      (.text (Text.ofString "%26lt;"))).outcome = .ok (.text (Text.ofString "<"))
    ∧ ∃ canonical : Text, Value.text (Text.ofString "<") = .text canonical
      ∧ (∀ scheme ∈ Scheme.defaults,
        scheme.codec.Plain canonical ∧ scheme.codec.decodePass canonical = ⟨canonical, 0⟩)
      ∧ ∀ (again : Canonicalizer) (choice : Policy), again.schemes = Scheme.defaults →
        again.canonicalize choice (.text canonical) = ⟨.ok (.text canonical), []⟩ := by
  have decoded : Decoding.all (standard .recording).schemes (Text.ofString "%26lt;")
      = ⟨Text.ofString "<", [(.percent, 1), (.html, 1)], false⟩ := by
    decide +kernel
  have returned : ((standard .recording).canonicalize (.ofFlags true false)
      (.text (Text.ofString "%26lt;"))).outcome = .ok (.text (Text.ofString "<")) := by
    rw [outcome_canonicalize_text, decoded]
    exact if_neg (by decide)
  exact ⟨returned, canonicalize_stable (standard .recording) (.ofFlags true false) (.inl rfl)
    returned⟩

end Canonicalizer

end Escaping
