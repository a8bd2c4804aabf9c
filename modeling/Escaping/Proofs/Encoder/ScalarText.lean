import Escaping.Proofs.Base64.RoundTrip
import Escaping.Proofs.Codec.Closure
import Escaping.Proofs.Encoder.UrlComponent

/-!
Decoded texts that can be written again. What each scheme of a list keeps out of a text, all of
their passes over it do. So a text without surrogates is decoded to one, as long as no scheme reads
units, and such a text has an encoding for URLs and one in Base64.
-/

namespace Escaping

variable {schemes : List Scheme} {allowed : CodePoint → Prop}

namespace Pass

theorem allowed_decodeEach (keeps : ∀ scheme ∈ schemes, scheme.codec.Keeps allowed) {text : Text}
    (each : ∀ point ∈ text, allowed point) : ∀ point ∈ decodeEach schemes text, allowed point := by
  induction schemes generalizing text with
  | nil => exact each
  | cons scheme rest induction =>
      rcases List.forall_mem_cons.mp keeps with ⟨first, others⟩
      exact induction others (first text each)

theorem allowed_textAfter (keeps : ∀ scheme ∈ schemes, scheme.codec.Keeps allowed) (count : Nat)
    {text : Text} (each : ∀ point ∈ text, allowed point) :
    ∀ point ∈ textAfter schemes count text, allowed point := by
  induction count generalizing text with
  | zero => exact each
  | succ count induction => exact induction (allowed_decodeEach keeps each)

end Pass

/-- Passes keep what each of their schemes keeps. -/
theorem Decoding.allowed_all (keeps : ∀ scheme ∈ schemes, scheme.codec.Keeps allowed) {text : Text}
    (each : ∀ point ∈ text, allowed point) : ∀ point ∈ (all schemes text).text, allowed point := by
  rw [text_all]
  exact Pass.allowed_textAfter keeps _ each

theorem Encoder.perform_encodeForBase64_text {encoder : Encoder} {text : Text}
    (scalar : ∀ point ∈ text, point.isSurrogate = false) (wrap : Bool) :
    encoder.perform (.encodeForBase64 (.text text) wrap)
      = ⟨.ok (.text (Base64.encodeLines (Utf8.encode text) wrap)), []⟩ := by
  have performed : encoder.perform (.encodeForBase64 (.text text) wrap)
      = .ofExcept ((encodeForBase64 (.text text) wrap).map Value.text) := rfl
  rw [performed, encodeForBase64_text, Utf8.surrogateRun?_eq_none_iff.mpr scalar]
  rfl

/-- Decoding brings in no surrogate, unless a string literal is read, so what it gives can be encoded
for URLs and in Base64. Markup and style sheets bring in no NUL, and XML brings in nothing that no
document can hold. -/
theorem Decoding.all_scalar (schemes : List Scheme) (scheme : Scheme) :
    (scheme ∉ Scheme.unitLiterals → scheme.codec.Keeps (·.isSurrogate = false))
    ∧ (scheme ∈ .css :: Scheme.markup → scheme.codec.Keeps (·.val ≠ 0))
    ∧ (scheme ∈ [.xml, .xmlAttribute] → scheme.codec.Keeps (scheme.excludes · = false))
    ∧ ((∀ each ∈ schemes, each ∉ Scheme.unitLiterals) → ∀ text : Text,
      (∀ point ∈ text, point.isSurrogate = false) →
        (∀ point ∈ (all schemes text).text, point.isSurrogate = false)
        ∧ ∀ encoder : Encoder,
          (∃ written, encoder.perform (.encodeForUrl (.text (all schemes text).text))
            = ⟨.ok (.text written), []⟩)
          ∧ ∀ wrap, ∃ written,
            encoder.perform (.encodeForBase64 (.text (all schemes text).text) wrap)
              = ⟨.ok (.text written), []⟩) := by
  refine ⟨Scheme.keeps_scalar, Scheme.keeps_nonzero, Scheme.keeps_legal, ?_⟩
  intro noUnits text scalar
  have decoded : ∀ point ∈ (all schemes text).text, point.isSurrogate = false :=
    allowed_all (fun each member => Scheme.keeps_scalar (noUnits each member)) scalar
  refine ⟨decoded, fun encoder => ⟨⟨_, Encoder.perform_encodeForUrl_text decoded⟩, fun wrap => ?_⟩⟩
  exact ⟨_, Encoder.perform_encodeForBase64_text decoded wrap⟩

/-- The octets of a surrogate come out as replacements, also where they are encoded twice. -/
theorem Decoding.all_scalar_encodedSurrogate :
    (all [.percent, .html] (Text.ofString "&#37;ed%25a0%80&#xd800;")).text
      = ([.replacement, .replacement, .replacement, .replacement] : Text)
    ∧ (∀ point ∈ (all [.percent, .html] (Text.ofString "&#37;ed%25a0%80&#xd800;")).text,
      point.isSurrogate = false)
    ∧ (∀ point ∈ Ldap.nameCodec.decode (Text.ofString "\\ed\\A0\\80"), point.isSurrogate = false)
    ∧ (∀ point ∈ Css.codec.decode (Text.ofString "\\0\\d800 "), point.val ≠ 0)
    ∧ ∀ point ∈ Xml.codec.decode (Text.ofString "&#1;&#x1F;"),
      Scheme.xml.excludes point = false := by
  have whole := all_scalar [.percent, .html]
  refine ⟨by decide +kernel, ?_, ?_, ?_, ?_⟩
  · exact ((whole .html).2.2.2 (by decide) _ (by decide)).1
  · exact (whole .ldapName).1 (by decide) _ (by decide)
  · exact (whole .css).2.1 (by decide) _ (by decide)
  · exact (whole .xml).2.2.1 (by decide) _ (by decide)

end Escaping
