import Escaping.Proofs.Canonical.Stability
import Escaping.Proofs.Encoder.Reporting
import Escaping.Proofs.Uri.Components
import Escaping.Proofs.Uri.RoundTrip

/-!
Canonical references. Each component is decoded on its own, and the canonical components are put
together as they are. A delimiter that comes out of an escape then stands raw in the result, which
may be split at it and hold an escape across the cut. Decoding makes every component shorter that
holds an escape, so the result is canonical exactly where the components that it is split into are.
-/

namespace Escaping

theorem Failure.toOption_eq_some_iff {Fault Result : Type} {outcome : Except Fault Result}
    {result : Result} : outcome.toOption = some result ↔ outcome = .ok result := by
  cases outcome with
  | error fault => simp [Except.toOption]
  | ok value => simp [Except.toOption]

namespace Decoding

/-- Decoding makes a text shorter unless there is nothing to decode in it. -/
theorem shorterUnless_all (schemes : List Scheme) (text : Text) :
    ShorterUnless (Settled schemes text) text (all schemes text).text := by
  by_cases settled : Settled schemes text
  · rw [all_of_settled settled]
    exact .inr ⟨rfl, settled⟩
  · exact .inl (length_text_all_lt settled)

end Decoding

namespace Encoder

variable {encoder : Encoder} {input : Text}

/-- A component that is returned although repeated encoding is restricted was decoded to the end. -/
theorem canonicalizeText_returned (restricted : encoder.configuration.allowMultiple = false)
    {result : Text} (returned : (encoder.canonicalizeText input).outcome = .ok result) :
    result = (encoder.decoding input).text ∧ Settled encoder.canonicalizer.schemes result := by
  rw [canonicalizeText, Canonicalizer.canonicalizeText_eq] at returned
  split at returned
  next => cases returned
  next tolerated =>
    have strict : encoder.configuration.policy.restricts .multiple = true := by
      rw [Configuration.policy, restricted]
      rfl
    have complete := Canonicalizer.complete_of_tolerated strict tolerated
    cases returned
    exact ⟨rfl, Decoding.settled_all complete⟩

theorem perform_canonicalizeUri_text :
    encoder.perform (.canonicalizeUri (.text input))
      = textResult (Uri.onComponents encoder.canonicalizeText (Uri.ofText input)
        >>= fun uri => pure uri.toText) := rfl

/-- Canonicalizing a reference decodes all of its components, and returns them put together. -/
theorem canonicalizeUri_returned (restricted : encoder.configuration.allowMultiple = false)
    {result : Value}
    (returned : (encoder.perform (.canonicalizeUri (.text input))).outcome = .ok result) :
    result = .text ((Uri.ofText input).map fun part => (encoder.decoding part).text).toText
      ∧ ((Uri.ofText input).map fun part => (encoder.decoding part).text).Each
        (Settled encoder.canonicalizer.schemes) := by
  rw [perform_canonicalizeUri_text] at returned
  rcases Audited.outcome_bind_eq_ok_iff.mp returned with ⟨text, joined, ⟨⟩⟩
  rcases Audited.outcome_bind_eq_ok_iff.mp joined with ⟨uri, performed, ⟨⟩⟩
  rcases Uri.onComponents_returned (canonicalizeText_returned restricted) performed with ⟨rfl, held⟩
  exact ⟨rfl, held⟩

theorem canonicalizeUri_of_settled
    (settled : (Uri.ofText input).Each (Settled encoder.canonicalizer.schemes)) :
    encoder.perform (.canonicalizeUri (.text input)) = ⟨.ok (.text input), []⟩ := by
  have fixed : (Uri.ofText input).Each (Uri.Fixes encoder.canonicalizeText) :=
    settled.mono fun _ nothing =>
      encoder.canonicalizer.canonicalizeText_of_settled encoder.configuration.policy nothing
  have whole := (Uri.ofText_eq_iff.mp (rfl : Uri.ofText input = _)).1
  rw [perform_canonicalizeUri_text, Uri.onComponents_of_fixed fixed]
  exact congrArg (fun text => Audited.mk (.ok (Value.text text)) []) whole.symm

/-- A returned text holds an escape in none of the components that it is split into. -/
theorem settled_of_canonicalizeUri (restricted : encoder.configuration.allowMultiple = false)
    (returned : (encoder.perform (.canonicalizeUri (.text input))).outcome = .ok (.text input)) :
    (Uri.ofText input).Each (Settled encoder.canonicalizer.schemes) := by
  rcases Uri.ofText_eq_iff.mp (rfl : Uri.ofText input = _) with ⟨whole, wellFormed⟩
  have same := Value.text.inj (canonicalizeUri_returned restricted returned).1
  have shorter := Uri.shorterUnless_toText
    (Decoding.shorterUnless_all encoder.canonicalizer.schemes) wellFormed.hostless
  rw [← whole] at shorter
  exact shorter.of_eq same.symm

/-- Where repeated encoding is restricted, a canonical reference is put together from the decoded
components, none of which holds an escape. Canonicalizing it again returns it, without a report,
exactly where the components that it is split into hold none either. This is so wherever it is split
into the components that it was put together from. -/
theorem canonicalizeUri_again (restricted : encoder.configuration.allowMultiple = false)
    {result : Value}
    (returned : (encoder.perform (.canonicalizeUri (.text input))).outcome = .ok result) :
    ∃ canonical : Uri, canonical = (Uri.ofText input).map (fun part => (encoder.decoding part).text)
      ∧ result = .text canonical.toText
      ∧ canonical.Each (Settled encoder.canonicalizer.schemes)
      ∧ ((encoder.perform (.canonicalizeUri result)).outcome = .ok result
        ↔ (Uri.ofText canonical.toText).Each (Settled encoder.canonicalizer.schemes))
      ∧ ((encoder.perform (.canonicalizeUri result)).outcome = .ok result
        → encoder.perform (.canonicalizeUri result) = ⟨.ok result, []⟩)
      ∧ (canonical.WellFormed → encoder.perform (.canonicalizeUri result) = ⟨.ok result, []⟩) := by
  rcases canonicalizeUri_returned restricted returned with ⟨rfl, settled⟩
  refine ⟨_, rfl, rfl, settled, ⟨settled_of_canonicalizeUri restricted, ?_⟩, ?_, ?_⟩
  · intro split
    rw [canonicalizeUri_of_settled split]
  · intro again
    exact canonicalizeUri_of_settled (settled_of_canonicalizeUri restricted again)
  · intro wellFormed
    apply canonicalizeUri_of_settled
    rw [Uri.ofText_eq_iff.mpr ⟨rfl, wellFormed⟩]
    exact settled

theorem canonicalizeUri_again_dots :
    ∃ encoder, make Configuration.standard none .recording = .ok encoder
      ∧ encoder.configuration.allowMultiple = false
      ∧ (encoder.perform (.canonicalizeUri (.text (Text.ofString "/%2e%2e?a=%62")))).outcome
        = .ok (.text (Text.ofString "/..?a=b"))
      ∧ encoder.perform (.canonicalizeUri (.text (Text.ofString "/..?a=b")))
        = ⟨.ok (.text (Text.ofString "/..?a=b")), []⟩ := by
  let encoder : Encoder := ⟨.standard, .standard .recording⟩
  have performed : (encoder.canonicalizeUri (Text.ofString "/%2e%2e?a=%62")).outcome
      = .ok (Text.ofString "/..?a=b") :=
    Failure.toOption_eq_some_iff.mp (by decide +kernel)
  have returned : (encoder.perform
      (.canonicalizeUri (.text (Text.ofString "/%2e%2e?a=%62")))).outcome
        = .ok (.text (Text.ofString "/..?a=b")) :=
    Audited.outcome_bind_eq_ok_iff.mpr ⟨_, performed, rfl⟩
  rcases canonicalizeUri_again rfl returned with ⟨canonical, decoded, whole, _, _, _, again⟩
  have split : canonical = ⟨none, none, none, none, Text.ofString "/..",
      some [⟨Text.ofString "a", some (Text.ofString "b")⟩], none⟩ := by
    rw [decoded]
    decide +kernel
  have cut : Uri.ofText (Text.ofString "/..?a=b") = canonical := by
    rw [split]
    decide +kernel
  exact ⟨encoder, rfl, rfl, returned, again (Uri.ofText_eq_iff.mp cut).2⟩

/-- A number sign that comes out of an escape in the path cuts a text in two that was a path and a
query. The ampersand between parameters then starts a reference in the fragment. -/
theorem canonicalizeUri_again_crossing :
    ∃ encoder, make Configuration.standard none .recording = .ok encoder
      ∧ encoder.configuration.allowMultiple = false ∧ encoder.configuration.allowMixed = false
      ∧ (encoder.perform (.canonicalizeUri (.text (Text.ofString "/%23?a&lt;")))).outcome
        = .ok (.text (Text.ofString "/#?a&lt;"))
      ∧ (encoder.perform (.canonicalizeUri (.text (Text.ofString "/#?a&lt;")))).outcome
        = .ok (.text (Text.ofString "/#?a<"))
      ∧ Text.ofString "/#?a<" ≠ Text.ofString "/#?a&lt;" := by
  let encoder : Encoder := ⟨.standard, .standard .recording⟩
  have first : (encoder.canonicalizeUri (Text.ofString "/%23?a&lt;")).outcome
      = .ok (Text.ofString "/#?a&lt;") :=
    Failure.toOption_eq_some_iff.mp (by decide +kernel)
  have second : (encoder.canonicalizeUri (Text.ofString "/#?a&lt;")).outcome
      = .ok (Text.ofString "/#?a<") :=
    Failure.toOption_eq_some_iff.mp (by decide +kernel)
  exact ⟨encoder, rfl, rfl, rfl, Audited.outcome_bind_eq_ok_iff.mpr ⟨_, first, rfl⟩,
    Audited.outcome_bind_eq_ok_iff.mpr ⟨_, second, rfl⟩, by decide⟩

end Encoder

end Escaping
