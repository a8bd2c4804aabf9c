import Escaping.Encoder.Operation
import Escaping.Proofs.Codec.Generated

/-!
Confinement of encoded text. What an encoder writes for markup, scripts, style sheets and URLs holds
letters, digits, a few signs that end nothing there, and escapes. Every lead starts a complete
escape, and the other signs of escapes stand nowhere else. So no text breaks out of the place that
it is written to.
-/

namespace Escaping

/-- An ASCII letter or digit, or one of some signs. -/
def CodePoint.AlphanumericOr (signs : List CodePoint) (point : CodePoint) : Prop :=
  point.isAlphanumeric = true ∨ point ∈ signs

instance (signs : List CodePoint) (point : CodePoint) : Decidable (point.AlphanumericOr signs) :=
  inferInstanceAs (Decidable (_ ∨ _))

namespace CodePoint

variable {signs others : List CodePoint} {point : CodePoint}

theorem AlphanumericOr.mono (among : point.AlphanumericOr signs) (subset : signs ⊆ others) :
    point.AlphanumericOr others :=
  among.imp_right fun sign => subset sign

theorem alphanumericOr_of_isAlphanumeric (signs : List CodePoint) (point : CodePoint)
    (plain : point.isAlphanumeric = true) : point.AlphanumericOr signs :=
  .inl plain

theorem alphanumericOr_of_mem (signs : List CodePoint) :
    ∀ point ∈ signs, point.AlphanumericOr signs :=
  fun _ sign => .inr sign

theorem alphanumericOr_of_isHexDigit (signs : List CodePoint) (digit : point.isHexDigit = true) :
    point.AlphanumericOr signs :=
  .inl (isAlphanumeric_of_isHexDigit digit)

end CodePoint

/-- A text holds letters, digits, given signs and leads, and every lead starts an escape. -/
structure Confined (lead : CodePoint) (IsBody : Text → Prop) (signs : List CodePoint)
    (output : Text) : Prop where
  alphabet : ∀ point ∈ output, point.AlphanumericOr (lead :: signs)
  escapes : ∀ start, output[start]? = some lead →
    ∃ body, IsBody body ∧ lead :: body <+: output.drop start

namespace EscapeGrammar

/-- Beside letters and digits, some signs stand raw in a grammar and others in the bodies of its
escapes. The lead does neither. -/
structure Spells (grammar : EscapeGrammar) (signs enclosed : List CodePoint) : Prop where
  raw : ∀ point, grammar.raw point → point.AlphanumericOr signs
  body : ∀ body, grammar.body body → ∀ point ∈ body, point.AlphanumericOr enclosed
  special : grammar.lead.isAlphanumeric = false
  lead : grammar.lead ∉ signs ++ enclosed

variable {grammar : EscapeGrammar} {signs enclosed : List CodePoint} {output : Text}

theorem Spells.not_alphanumericOr (spells : grammar.Spells signs enclosed) {others : List CodePoint}
    (subset : others ⊆ signs ++ enclosed) : ¬grammar.lead.AlphanumericOr others := by
  rintro (plain | sign)
  · rw [spells.special] at plain
    cases plain
  · exact spells.lead (subset sign)

theorem Spells.confined (spells : grammar.Spells signs enclosed)
    (generates : grammar.Generates output) :
    Confined grammar.lead grammar.body (signs ++ enclosed) output where
  alphabet := by
    intro point member
    rcases generates.raw_or_lead_or_mem member with raw | rfl | ⟨body, written, inside⟩
    · exact (spells.raw point raw).mono fun sign here =>
        List.mem_cons_of_mem _ (List.mem_append_left enclosed here)
    · exact .inr List.mem_cons_self
    · exact (spells.body body written point inside).mono fun sign here =>
        List.mem_cons_of_mem _ (List.mem_append_right signs here)
  escapes := by
    intro start found
    have escaped : ¬grammar.raw grammar.lead := fun raw =>
      spells.not_alphanumericOr (List.subset_append_left signs enclosed) (spells.raw _ raw)
    have clean : ∀ body, grammar.body body → grammar.lead ∉ body := fun body written inside =>
      spells.not_alphanumericOr (List.subset_append_right signs enclosed)
        (spells.body body written _ inside)
    rcases generates.exists_standsAt escaped clean found with ⟨body, stands⟩
    exact ⟨body, stands.written, stands.held⟩

end EscapeGrammar

namespace CharacterReference

/-- A reference stands in a text: an ampersand, letters, digits or number signs, and a semicolon. A
codec matches it there, from the ampersand to the semicolon. -/
structure StandsAt (codec : Codec) (text : Text) (start : Nat) (inner : Text) : Prop where
  held : ampersand :: (inner ++ [semicolon]) <+: text.drop start
  enclosed : ∀ point ∈ inner, point.AlphanumericOr [numberSign]
  matched : ∃ decoded, codec.decodeAt text start = some ⟨decoded, start + inner.length + 2⟩

/-- Markup holds letters, digits, given signs and complete references. Number signs and semicolons
lie inside references. -/
structure Confined (codec : Codec) (signs : List CodePoint) (output : Text) : Prop where
  alphabet : ∀ point ∈ output,
    point.AlphanumericOr (ampersand :: (signs ++ [numberSign, semicolon]))
  references : ∀ start, output[start]? = some ampersand →
    ∃ inner, StandsAt codec output start inner
  enclosed : ∀ position, ∀ sign ∈ [numberSign, semicolon], output[position]? = some sign →
    ∃ start inner, StandsAt codec output start inner
      ∧ start < position ∧ position < start + inner.length + 2

variable {unescape : Text → Option Unescaped} {codec : Codec} {signs : List CodePoint}
  {output : Text}

theorem standsAt_of_body (decodes : codec.decoder = some ⟨ampersand, unescape⟩) {start : Nat}
    {body : Text} (written : Body unescape body) (held : ampersand :: body <+: output.drop start) :
    ∃ inner, body.length = inner.length + 1 ∧ StandsAt codec output start inner := by
  cases written with
  | @closed inner decoded enclosed reads =>
      refine ⟨inner, List.length_append, held, fun point member => ?_, decoded, ?_⟩
      · exact (enclosed point member).imp_right List.mem_singleton.mpr
      · rcases reads with ⟨body, equal, matched⟩
        rcases held with ⟨rest, here⟩
        cases equal
        refine (Codec.decodeAt_eq_some_iff decodes).mpr ⟨_, _, here.symm, matched rest, ?_⟩
        have stop : start + inner.length + 2 = start + 1 + (inner ++ [semicolon]).length := by
          rw [List.length_append, List.length_singleton]
          omega
        rw [stop]

theorem spells (unescape : Text → Option Unescaped) (outside : ampersand ∉ signs) :
    (grammar unescape (CodePoint.AlphanumericOr signs)).Spells signs [numberSign, semicolon] where
  raw _ raw := raw
  body := by
    rintro _ ⟨enclosed, _⟩ point member
    rcases List.mem_append.mp member with inside | last
    · exact (enclosed point inside).imp_right fun sign => List.mem_cons.mpr (.inl sign)
    · exact .inr (List.mem_cons_of_mem _ last)
  special := show ampersand.isAlphanumeric = false from by decide
  lead sign := (List.mem_append.mp sign).elim outside
    (show ampersand ∉ [numberSign, semicolon] from by decide)

theorem confined_of_generates (decodes : codec.decoder = some ⟨ampersand, unescape⟩)
    (outside : ∀ sign ∈ [ampersand, numberSign, semicolon], sign ∉ signs)
    (generates : (grammar unescape (CodePoint.AlphanumericOr signs)).Generates output) :
    Confined codec signs output := by
  have confined := (spells unescape (outside _ List.mem_cons_self)).confined generates
  refine ⟨confined.alphabet, ?_, ?_⟩
  · intro start found
    rcases confined.escapes start found with ⟨body, written, held⟩
    rcases standsAt_of_body decodes written held with ⟨inner, _, stands⟩
    exact ⟨inner, stands⟩
  · intro position sign member found
    have special : ∀ each ∈ [numberSign, semicolon],
        each.isAlphanumeric = false ∧ each ≠ ampersand := by decide
    have escaped : ¬sign.AlphanumericOr signs := by
      rintro (plain | kept)
      · rw [(special sign member).1] at plain
        cases plain
      · exact outside sign (List.mem_cons_of_mem _ member) kept
    rcases generates.exists_in_body found escaped (special sign member).2 with
      ⟨start, body, stands, offset, rfl, inside⟩
    rcases standsAt_of_body decodes stands.written stands.held with ⟨inner, width, reference⟩
    have within := (List.getElem?_eq_some_iff.mp inside).1
    exact ⟨start, inner, reference, by omega, by omega⟩

/-- References that are read back confine what a codec writes. -/
theorem Faithful.confined_encode {escape : CodePoint → Text} {image : CodePoint → CodePoint}
    (faithful : Faithful escape unescape image) (writes : codec.escape = escape)
    (decodes : codec.decoder = some ⟨ampersand, unescape⟩)
    (closed : ∀ {point : CodePoint}, point.isAlphanumeric = false → IsClosed (escape point))
    (outside : ∀ sign ∈ [ampersand, numberSign, semicolon], sign ∉ signs) (text : Text) :
    Confined codec signs (codec.encode signs text) := by
  apply confined_of_generates decodes outside
  refine Codec.generates_encode (CodePoint.alphanumericOr_of_mem signs) (fun point => ?_) text
  rw [writes]
  exact faithful.generates_escape closed (CodePoint.alphanumericOr_of_isAlphanumeric signs) point

end CharacterReference

namespace JavaScript

open StringLiteral

theorem spells :
    (grammar (CodePoint.AlphanumericOr [',', '.', '_'])).Spells [',', '.', '_'] [] where
  raw _ raw := raw
  body := by
    have letters : ∀ letter ∈ [CodePoint.ofChar 'x', 'u'], letter.AlphanumericOr [] := by decide
    rintro _ (hexadecimal | hexadecimal) point member
    all_goals
      rcases List.mem_cons.mp member with rfl | digit
      · exact letters _ (by decide)
      · exact CodePoint.alphanumericOr_of_isHexDigit [] (hexadecimal.isHexDigit point digit)
  special := by decide
  lead := by decide

theorem confined_encode (text : Text) :
    Confined backslash Body [',', '.', '_'] (codec.encode [',', '.', '_'] text) :=
  spells.confined
    (Codec.generates_encode (CodePoint.alphanumericOr_of_mem _)
      (generates_escape (CodePoint.alphanumericOr_of_isAlphanumeric _)) text)

end JavaScript

namespace Css

/-- The only spaces of a style sheet are those that end its escapes. -/
structure Confined (output : Text) : Prop
    extends Escaping.Confined backslash Body [space] output where
  spaces : ∀ position, output[position]? = some space →
    ∃ start body, Body body ∧ backslash :: body <+: output.drop start
      ∧ position = start + body.length

theorem spells : (grammar (CodePoint.AlphanumericOr [])).Spells [] [space] where
  raw _ raw := raw
  body := by
    rintro _ ⟨_, _, hexadecimal⟩ point member
    rcases List.mem_append.mp member with digit | last
    · exact CodePoint.alphanumericOr_of_isHexDigit [space] (hexadecimal point digit)
    · exact .inr last
  special := by decide
  lead := by decide

/-- The space of an escape is its last code point. -/
theorem Body.length_eq_of_space {body : Text} (written : Body body) {offset : Nat}
    (found : body[offset]? = some space) : body.length = offset + 1 := by
  cases written with
  | @digits digits _ _ hexadecimal =>
      have inside := (List.getElem?_eq_some_iff.mp found).1
      rw [List.length_append, List.length_singleton] at inside ⊢
      by_cases within : offset < digits.length
      · rw [List.getElem?_append_left within] at found
        exact absurd (hexadecimal space (List.mem_of_getElem? found)) (by decide)
      · omega

theorem confined_encode (text : Text) : Confined (codec.encode [] text) := by
  have generates : (grammar (CodePoint.AlphanumericOr [])).Generates (codec.encode [] text) :=
    Codec.generates_encode (CodePoint.alphanumericOr_of_mem [])
      (generates_escape (CodePoint.alphanumericOr_of_isAlphanumeric [])) text
  refine ⟨spells.confined generates, ?_⟩
  intro position found
  have escaped : ¬space.AlphanumericOr [] := by decide
  rcases generates.exists_in_body found escaped (by decide) with
    ⟨start, body, stands, offset, rfl, inside⟩
  have last := stands.written.length_eq_of_space inside
  exact ⟨start, body, stands.written, stands.held, by rw [last]⟩

end Css

namespace Percent

theorem spells :
    (OctetRun.grammar percent (CodePoint.AlphanumericOr otherUnreserved)).Spells otherUnreserved []
    where
  raw _ raw := raw
  body _ hexadecimal point digit :=
    CodePoint.alphanumericOr_of_isHexDigit [] (hexadecimal.isHexDigit point digit)
  special := by decide
  lead := by decide

theorem generates_escapeRun (raw : CodePoint → Prop) (run : Text) :
    (OctetRun.grammar percent raw).Generates (escapeRun run) :=
  EscapeGrammar.generates_flatMap fun octet _ =>
    EscapeGrammar.generates_escape (Digits.printsHex_upperDigit.isHex_fixed 2 octet.toNat)

/-- Runs of reserved characters are written as escapes, and unreserved ones stand raw. -/
theorem generates_encodeRuns (text : Text) :
    (OctetRun.grammar percent (CodePoint.AlphanumericOr otherUnreserved)).Generates
      (encodeRuns text) := by
  fun_induction encodeRuns text with
  | case1 => exact .nil
  | case2 head tail unreserved induction =>
      have raw : head.AlphanumericOr otherUnreserved := by
        simpa [isUnreserved, CodePoint.AlphanumericOr] using unreserved
      exact .raw raw induction
  | case3 head tail reserved induction => exact (generates_escapeRun _ _).append induction

theorem confined_encodeRuns (text : Text) :
    Confined percent (Text.IsHex 2) ['-', '.', '_', '~'] (encodeRuns text) :=
  spells.confined (generates_encodeRuns text)

end Percent

/-- The scheme that a context is written in. -/
def Context.scheme : Context → Scheme
  | .html | .htmlAttribute => .html
  | .css => .css
  | .javaScript => .javaScript
  | .vbScript => .vbScript
  | .xml => .xml
  | .xmlAttribute => .xmlAttribute
  | .xPath => .xPath
  | .json => .json
  | .distinguishedName => .ldapName

theorem Context.confined_encode_of_markup {context : Context}
    (markup : context ∈ [html, htmlAttribute, xml, xmlAttribute, xPath]) (text : Text) :
    CharacterReference.Confined context.scheme.codec context.immune (context.encode text) := by
  have outside : ∀ each ∈ [html, htmlAttribute, xml, xmlAttribute, xPath],
      ∀ sign ∈ [CharacterReference.ampersand, CharacterReference.numberSign,
        CharacterReference.semicolon], sign ∉ each.immune := by decide
  have immunity := outside context markup
  simp only [List.mem_cons, List.not_mem_nil, or_false] at markup
  rcases markup with rfl | rfl | rfl | rfl | rfl
  · exact Html.faithful.confined_encode rfl rfl Html.isClosed_escape immunity text
  · exact Html.faithful.confined_encode rfl rfl Html.isClosed_escape immunity text
  · exact Xml.faithful.confined_encode rfl rfl Xml.isClosed_escape immunity text
  · exact Xml.faithful.confined_encode rfl rfl Xml.isClosed_escape immunity text
  · exact Html.faithful.confined_encode rfl rfl Html.isClosed_escape immunity text

namespace Encoder

/-- A URL component is encoded unless it holds a surrogate. -/
theorem outcome_encodeForUrl_eq_ok_iff {encoder : Encoder} {text : Text} {result : Value} :
    (encoder.perform (.encodeForUrl (.text text))).outcome = .ok result
      ↔ (∀ point ∈ text, point.isSurrogate = false) ∧ result = .text (Percent.encodeRuns text) := by
  have performed : (encoder.perform (.encodeForUrl (.text text))).outcome
      = ((encodeForUrl text).map Value.text).mapError Failure.ofEncodingFault := rfl
  rw [performed, encodeForUrl, Percent.encodeComponent, ← Utf8.surrogateRun?_eq_none_iff]
  split
  next found run =>
      rw [run]
      exact iff_of_false nofun fun both => nomatch both.1
  next whole =>
      rw [whole]
      exact (iff_of_eq (Except.ok.injEq _ _)).trans (eq_comm.trans (and_iff_right rfl).symm)

/-- Whatever the text, its encoded form stays inside the context that it is written to. -/
theorem perform_confined (encoder : Encoder) (text : Text) :
    (∀ context ∈ [Context.html, .xml, .xPath], ∃ output,
      (encoder.perform (.encode context (.text text))).outcome = .ok (.text output)
      ∧ CharacterReference.Confined context.scheme.codec [',', '.', '-', '_', ' '] output)
    ∧ (∀ context ∈ [Context.htmlAttribute, .xmlAttribute], ∃ output,
      (encoder.perform (.encode context (.text text))).outcome = .ok (.text output)
      ∧ CharacterReference.Confined context.scheme.codec [',', '.', '-', '_'] output)
    ∧ (∃ output, (encoder.perform (.encode .javaScript (.text text))).outcome = .ok (.text output)
      ∧ Confined StringLiteral.backslash JavaScript.Body [',', '.', '_'] output)
    ∧ (∃ output, (encoder.perform (.encode .css (.text text))).outcome = .ok (.text output)
      ∧ Css.Confined output)
    ∧ (∀ result, (encoder.perform (.encodeForUrl (.text text))).outcome = .ok result →
      ∃ output, result = .text output
        ∧ Confined Percent.percent (Text.IsHex 2) ['-', '.', '_', '~'] output)
    ∧ ((∃ result, (encoder.perform (.encodeForUrl (.text text))).outcome = .ok result)
      ↔ ∀ point ∈ text, point.isSurrogate = false) := by
  refine ⟨?_, ?_, ?_, ?_, ?_, ?_⟩
  · intro context member
    have shared : ∀ each ∈ [Context.html, .xml, .xPath],
        each ∈ [Context.html, .htmlAttribute, .xml, .xmlAttribute, .xPath]
          ∧ each.immune = ([',', '.', '-', '_', ' '] : List CodePoint) := by decide
    rcases shared context member with ⟨markup, immune⟩
    exact ⟨_, rfl, immune ▸ Context.confined_encode_of_markup markup text⟩
  · intro context member
    have shared : ∀ each ∈ [Context.htmlAttribute, .xmlAttribute],
        each ∈ [Context.html, .htmlAttribute, .xml, .xmlAttribute, .xPath]
          ∧ each.immune = ([',', '.', '-', '_'] : List CodePoint) := by decide
    rcases shared context member with ⟨markup, immune⟩
    exact ⟨_, rfl, immune ▸ Context.confined_encode_of_markup markup text⟩
  · exact ⟨_, rfl, JavaScript.confined_encode text⟩
  · exact ⟨_, rfl, Css.confined_encode text⟩
  · intro result returned
    rcases outcome_encodeForUrl_eq_ok_iff.mp returned with ⟨_, rfl⟩
    exact ⟨_, rfl, Percent.confined_encodeRuns text⟩
  · constructor
    · rintro ⟨result, returned⟩
      exact (outcome_encodeForUrl_eq_ok_iff.mp returned).1
    · intro scalar
      exact ⟨_, outcome_encodeForUrl_eq_ok_iff.mpr ⟨scalar, rfl⟩⟩

/-- A tag and a percent sign stay text in an attribute and in a URL. -/
theorem perform_confined_tag :
    ∃ encoder : Encoder,
      CharacterReference.Confined Html.codec [',', '.', '-', '_'] (Text.ofString "&lt;b&#x20;c")
      ∧ Confined Percent.percent (Text.IsHex 2) ['-', '.', '_', '~'] (Text.ofString "%3Cb%25")
      ∧ (encoder.perform (.encodeForUrl (.text (Text.ofString "<b%")))).outcome
        = .ok (.text (Text.ofString "%3Cb%25")) := by
  let encoder : Encoder :=
    ⟨⟨Scheme.defaults, true, false, []⟩,
      ⟨[.percent, .html], .failing, by decide, by decide, by decide⟩⟩
  rcases perform_confined encoder (Text.ofString "<b c") with ⟨_, attributes, _⟩
  rcases attributes .htmlAttribute List.mem_cons_self with ⟨output, returned, inMarkup⟩
  have written : Context.htmlAttribute.encode (Text.ofString "<b c")
      = Text.ofString "&lt;b&#x20;c" := by decide +kernel
  rw [perform_encode_text, written] at returned
  cases returned
  have component : (encoder.perform (.encodeForUrl (.text (Text.ofString "<b%")))).outcome
      = .ok (.text (Text.ofString "%3Cb%25")) := by
    have runs : Percent.encodeRuns (Text.ofString "<b%") = Text.ofString "%3Cb%25" := by
      decide +kernel
    exact outcome_encodeForUrl_eq_ok_iff.mpr ⟨by decide, by rw [runs]⟩
  rcases perform_confined encoder (Text.ofString "<b%") with ⟨_, _, _, _, inUrl, _⟩
  rcases inUrl _ component with ⟨output, equal, confined⟩
  cases equal
  exact ⟨encoder, inMarkup, confined, component⟩

end Encoder

end Escaping
