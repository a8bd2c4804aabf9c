import Escaping.Encoder.Operation
import Escaping.Proofs.Codec.CharacterEscape
import Escaping.Proofs.Codec.CharacterReference
import Escaping.Proofs.Codec.OctetRun
import Escaping.Proofs.Codec.StringLiteral

/-!
What decoding makes of an encoded text, by kinds of schemes. Character references give back every
code point that a document can hold, octet runs give back every text that has a UTF-8 form, and
units give back every text up to the joining of surrogates that stand next to each other. Escapes of
single characters give back all but what a style sheet cannot hold. What is immune stands raw, so it
must not hold the sign that an escape starts with.
-/

namespace Escaping

namespace Scheme

/-- The code points that no document in the markup of a scheme can hold. For HTML these are the C0
controls but tab, line feed and carriage return, then DEL and the C1 controls, and the surrogates;
for XML they are whatever its Char production leaves out. -/
def excludes (scheme : Scheme) (point : CodePoint) : Bool :=
  match scheme with
  | .html | .xPath =>
      (point.val ≤ 0x1f ∧ point.val ∉ [0x9, 0xa, 0xd])
        ∨ (0x7f ≤ point.val ∧ point.val ≤ 0x9f) ∨ (0xd800 ≤ point.val ∧ point.val ≤ 0xdfff)
  | .xml | .xmlAttribute =>
      ¬(point.val ∈ [0x9, 0xa, 0xd] ∨ (0x20 ≤ point.val ∧ point.val ≤ 0xd7ff)
        ∨ (0xe000 ≤ point.val ∧ point.val ≤ 0xfffd)
        ∨ (0x10000 ≤ point.val ∧ point.val ≤ 0x10ffff))
  | _ => false

theorem isIllegal_eq_excludes (point : CodePoint) : Html.isIllegal point = html.excludes point := by
  rw [Bool.eq_iff_iff, Html.isIllegal_iff]
  simp [excludes]

theorem isLegal_eq_not_excludes (point : CodePoint) :
    Xml.isLegal point.val = !xml.excludes point := by
  rw [Bool.eq_iff_iff, Xml.isLegal_iff]
  simp [excludes]

/-- The schemes of markup, whose escapes are character references. -/
def markup : List Scheme := [.html, .xPath, .xml, .xmlAttribute]

/-- The schemes whose escapes are runs of octets. -/
def octetRuns : List Scheme := [.percent, .ldapFilter, .ldapName]

/-- The schemes of string literals that write surrogates as units. -/
def unitLiterals : List Scheme := [.javaScript, .json]

/-- The schemes whose escapes stand for one character each and end by themselves. -/
def characterEscapes : List Scheme := [.css, .posixShell, .windowsShell, .mySql, .oracle]

/-- What a reference gives back: the code point that it was written for, or the replacement
character for one that no document can hold. -/
def represented (scheme : Scheme) (point : CodePoint) : CodePoint :=
  if scheme.excludes point then .replacement else point

theorem legalized_eq_represented : Html.legalized = html.represented := by
  funext point
  rw [Html.legalized, isIllegal_eq_excludes]
  rfl

theorem xmlLegalized_eq_represented : Xml.legalized = xml.represented := by
  funext point
  rw [Xml.legalized, isLegal_eq_not_excludes, represented]
  cases xml.excludes point with
  | false => rfl
  | true => rfl

variable {scheme : Scheme}

theorem faithful_of_markup (member : scheme ∈ markup) :
    ∃ unescape, scheme.codec.decoder = some ⟨CharacterReference.ampersand, unescape⟩
      ∧ CharacterReference.Faithful scheme.codec.escape unescape scheme.represented := by
  have html := legalized_eq_represented ▸ Html.faithful
  have xml := xmlLegalized_eq_represented ▸ Xml.faithful
  simp only [markup, List.mem_cons, List.not_mem_nil, or_false] at member
  rcases member with rfl | rfl | rfl | rfl
  · exact ⟨Html.unescape, rfl, html⟩
  · exact ⟨Html.unescape, rfl, html⟩
  · exact ⟨Xml.unescape, rfl, xml⟩
  · exact ⟨Xml.unescape, rfl, xml⟩

/-- Reading what HTML or an attribute value holds gives the text that was written for it. -/
theorem decodeForHtml_encode (encoder : Encoder) {context : Context}
    (inHtml : context ∈ [Context.html, Context.htmlAttribute]) {text : Text}
    (legal : ∀ point ∈ text, html.excludes point = false) :
    (encoder.perform (.encode context (.text text))).andThen
        (fun written => encoder.perform (.decodeForHtml written))
      = ⟨.ok (.text text), []⟩ := by
  have written : context.encode text = Html.codec.encode context.immune text := by
    simp only [List.mem_cons, List.not_mem_nil, or_false] at inHtml
    rcases inHtml with rfl | rfl
    · rfl
    · rfl
  have escaped : CharacterReference.ampersand ∉ context.immune := by
    cases context <;> decide
  have whole := Html.decode_encode escaped fun point member =>
    (isIllegal_eq_excludes point).trans (legal point member)
  rw [Encoder.perform_encode_text, Audited.ok_andThen, Encoder.perform_decodeForHtml_text,
    Html.textContent_eq_decode, written, whole]

/-- Markup gives back what was encoded, except for what no document can hold, whatever follows. -/
theorem decode_encode_references (member : scheme ∈ markup) {immune : List CodePoint}
    (escaped : CharacterReference.ampersand ∉ immune) (text rest : Text) :
    scheme.codec.decode (scheme.codec.encode immune text ++ rest)
      = text.map (fun point =>
          if point ∉ immune ∧ scheme.excludes point = true then .replacement else point)
        ++ scheme.codec.decode rest
    ∧ ∀ (encoder : Encoder), ∀ context ∈ [Context.html, Context.htmlAttribute],
      ∀ legal : Text, (∀ point ∈ legal, html.excludes point = false) →
        (encoder.perform (.encode context (.text legal))).andThen
            (fun written => encoder.perform (.decodeForHtml written))
          = ⟨.ok (.text legal), []⟩ := by
  refine ⟨?_, fun encoder context inHtml legal => decodeForHtml_encode encoder inHtml⟩
  rcases faithful_of_markup member with ⟨unescape, decodes, faithful⟩
  rw [faithful.decode_encode_append rfl decodes escaped]
  congr 1
  apply List.map_congr_left
  intro point _
  by_cases kept : point ∈ immune
  · simp [kept]
  · simp [kept, represented]

theorem decode_encode_references_rawSigns :
    CharacterReference.ampersand ∉ ([';', '#', 'x'] : List CodePoint)
    ∧ html.codec.decode
        (html.codec.encode [';', '#', 'x'] (Text.ofString "&#38;" ++ [.ofNat 0x0])
          ++ Text.ofString ";&amp;lt;")
      = Text.ofString "&#38;" ++ [.replacement] ++ Text.ofString ";&lt;"
    ∧ ∀ encoder : Encoder,
      (encoder.perform (.encode .htmlAttribute (.text (Text.ofString "a < b & c")))).andThen
          (fun written => encoder.perform (.decodeForHtml written))
        = ⟨.ok (.text (Text.ofString "a < b & c")), []⟩ := by
  have escaped : CharacterReference.ampersand ∉ ([';', '#', 'x'] : List CodePoint) := by decide
  have member : html ∈ markup := by decide
  have whole := decode_encode_references member escaped
  refine ⟨escaped, (whole (Text.ofString "&#38;" ++ [.ofNat 0x0]) _).1.trans ?_, ?_⟩
  · decide +kernel
  · exact fun encoder => (whole [] []).2 encoder .htmlAttribute (by simp) _ (by decide)

/-- Octet runs give back what was encoded, even where the text that follows goes on with the run. -/
theorem decode_encode_octets (member : scheme ∈ octetRuns) {immune : List CodePoint}
    (escaped : ∀ lead, scheme.codec.lead = some lead → lead ∉ immune) {text : Text}
    (scalar : ∀ point ∈ text, point ∉ immune → point.isSurrogate = false) (rest : Text) :
    scheme.codec.decode (scheme.codec.encode immune text ++ rest)
      = text ++ scheme.codec.decode rest := by
  simp only [octetRuns, List.mem_cons, List.not_mem_nil, or_false] at member
  rcases member with rfl | rfl | rfl
  · exact Percent.decode_encode_append (escaped _ rfl) scalar rest
  · exact Ldap.decode_encode_append rfl rfl (by decide) (escaped _ rfl) scalar rest
  · exact Ldap.decode_encode_append rfl rfl (by decide) (escaped _ rfl) scalar rest

theorem decode_encode_octets_joinedRun :
    (∀ lead, ldapFilter.codec.lead = some lead → lead ∉ ([.ofNat 0xd800] : List CodePoint))
    ∧ (∀ point ∈ ([.ofNat 0xd800, .ofNat 0xe9, '*'] : Text),
      point ∉ ([.ofNat 0xd800] : List CodePoint) → point.isSurrogate = false)
    ∧ ldapFilter.codec.decode
        (ldapFilter.codec.encode [.ofNat 0xd800] [.ofNat 0xd800, .ofNat 0xe9, '*']
          ++ Text.ofString "\\a9\\c3\\a9\\c")
      = ([.ofNat 0xd800, .ofNat 0xe9, '*', .replacement, .ofNat 0xe9, .ofNat 0x5c, 'c'] : Text)
    := by
  have member : ldapFilter ∈ octetRuns := by decide
  have escaped : ∀ lead, ldapFilter.codec.lead = some lead →
      lead ∉ ([.ofNat 0xd800] : List CodePoint) := by
    rintro _ ⟨⟩
    decide
  have scalar : ∀ point ∈ ([.ofNat 0xd800, .ofNat 0xe9, '*'] : Text),
      point ∉ ([.ofNat 0xd800] : List CodePoint) → point.isSurrogate = false := by decide
  refine ⟨escaped, scalar, (decode_encode_octets member escaped scalar _).trans ?_⟩
  decide +kernel

/-- String literals give back what was encoded with neighbouring surrogates joined, so they give
back exactly the texts that have none to join. -/
theorem decode_encode_units (member : scheme ∈ unitLiterals) {immune : List CodePoint}
    (escaped : StringLiteral.backslash ∉ immune)
    (scalar : ∀ point ∈ immune, point.isSurrogate = false) (text : Text) :
    scheme.codec.decode (scheme.codec.encode immune text) = Utf16.joinPairs text
    ∧ (scheme.codec.decode (scheme.codec.encode immune text) = text ↔ Utf16.Unpaired text)
    ∧ ∀ (encoder : Encoder) (unpaired : Text), Utf16.Unpaired unpaired →
      (encoder.perform (.encode .json (.text unpaired))).andThen
          (fun written => encoder.perform (.decodeFromJson written))
        = ⟨.ok (.text unpaired), []⟩ := by
  have joined : scheme.codec.decode (scheme.codec.encode immune text) = Utf16.joinPairs text := by
    simp only [unitLiterals, List.mem_cons, List.not_mem_nil, or_false] at member
    rcases member with rfl | rfl
    · exact JavaScript.decode_encode escaped scalar text
    · exact Json.decode_encode escaped scalar text
  refine ⟨joined, ?_, fun encoder unpaired apart => ?_⟩
  · rw [joined, Utf16.joinPairs_eq_self_iff]
  · have whole : Json.codec.decode (Context.json.encode unpaired) = unpaired :=
      (Json.decode_encode List.not_mem_nil (by simp) unpaired).trans
        (Utf16.joinPairs_of_unpaired apart)
    rw [Encoder.perform_encode_text, Audited.ok_andThen, Encoder.perform_decodeFromJson_text, whole]

theorem decode_encode_units_adjacentSurrogates :
    StringLiteral.backslash ∉ (['u', '0'] : List CodePoint)
    ∧ (∀ point ∈ (['u', '0'] : List CodePoint), point.isSurrogate = false)
    ∧ json.codec.decode (json.codec.encode ['u', '0']
        [.ofNat 0xd83d, .ofNat 0xd83d, .ofNat 0xde00, .ofNat 0x5c, 'u', .ofNat 0xde00])
      = ([.ofNat 0xd83d, .ofNat 0x1f600, .ofNat 0x5c, 'u', .ofNat 0xde00] : Text)
    ∧ ∀ encoder : Encoder,
      (encoder.perform (.encode .json (.text [.ofNat 0xde00, .ofNat 0xd83d]))).andThen
          (fun written => encoder.perform (.decodeFromJson written))
        = ⟨.ok (.text [.ofNat 0xde00, .ofNat 0xd83d]), []⟩ := by
  have member : json ∈ unitLiterals := by decide
  have escaped : StringLiteral.backslash ∉ (['u', '0'] : List CodePoint) := by decide
  have scalar : ∀ point ∈ (['u', '0'] : List CodePoint), point.isSurrogate = false := by decide
  have whole := decode_encode_units member escaped scalar
  have unpaired : Utf16.Unpaired [.ofNat 0xde00, .ofNat 0xd83d] :=
    (Utf16.joinPairs_eq_self_iff _).mp (by decide)
  refine ⟨escaped, scalar, (whole _).1.trans ?_, fun encoder => (whole []).2.2 encoder _ unpaired⟩
  decide

/-- What an escape of a character gives back. A style sheet holds neither NUL nor surrogates. -/
def restored (scheme : Scheme) (point : CodePoint) : CodePoint :=
  if scheme = .css ∧ (point.val = 0 ∨ point.isSurrogate = true) then .replacement else point

theorem ofReference_eq_restored (point : CodePoint) :
    CodePoint.ofReference point.val = css.restored point := by
  rw [CodePoint.ofReference, CodePoint.ofNat_val]
  simp [restored, CodePoint.isSurrogate]

theorem restored_of_ne_css (scheme : Scheme) (different : scheme ≠ .css) :
    scheme.restored = id := by
  funext point
  exact if_neg fun both => different both.1

theorem restores_of_characterEscapes (member : scheme ∈ characterEscapes) :
    ∃ decoder, scheme.codec.decoder = some decoder
      ∧ decoder.Restores scheme.codec.escape scheme.restored := by
  have cssImage : (fun point => CodePoint.ofReference point.val) = css.restored :=
    funext ofReference_eq_restored
  simp only [characterEscapes, List.mem_cons, List.not_mem_nil, or_false] at member
  rcases member with rfl | rfl | rfl | rfl | rfl
  · exact ⟨_, rfl, cssImage ▸ Css.restores_escape⟩
  · have same := restored_of_ne_css .posixShell (by decide)
    exact ⟨_, rfl, same ▸ Shell.restores_escape (by decide)⟩
  · have same := restored_of_ne_css .windowsShell (by decide)
    exact ⟨_, rfl, same ▸ Shell.restores_escape (by decide)⟩
  · have same := restored_of_ne_css .mySql (by decide)
    exact ⟨_, rfl, same ▸ MySql.restores_escape⟩
  · have same := restored_of_ne_css .oracle (by decide)
    exact ⟨_, rfl, same ▸ Oracle.restores_escape⟩

/-- Escapes of characters give back what was encoded, whatever follows: blanks, digits, quotes or
more escapes. Only CSS replaces something, namely NUL and surrogates. -/
theorem decode_encode_characters (member : scheme ∈ characterEscapes) {immune : List CodePoint}
    (escaped : ∀ lead, scheme.codec.lead = some lead → lead ∉ immune) (text rest : Text) :
    scheme.codec.decode (scheme.codec.encode immune text ++ rest)
      = text.map (fun point =>
          if scheme = .css ∧ point ∉ immune ∧ (point.val = 0 ∨ point.isSurrogate = true) then
            .replacement
          else point)
        ++ scheme.codec.decode rest := by
  rcases restores_of_characterEscapes member with ⟨decoder, decodes, restores⟩
  have leads : scheme.codec.lead = some decoder.lead := by rw [Codec.lead, decodes]; rfl
  rw [Codec.decode_encode_append_of_restores decodes restores (escaped decoder.lead leads)]
  congr 1
  apply List.map_congr_left
  intro point _
  by_cases kept : point ∈ immune
  · simp [kept]
  · simp [kept, restored]

theorem decode_encode_characters_blankAfterDigits :
    (∀ lead, css.codec.lead = some lead → lead ∉ (['a', ' '] : List CodePoint))
    ∧ css.codec.decode
        (css.codec.encode ['a', ' '] [.ofNat 0x0, 'a', '<', ' ', .ofNat 0xd800]
          ++ Text.ofString "\n\\3c\r\nb")
      = ([.replacement, 'a', '<', ' ', .replacement] : Text) ++ Text.ofString "\n<b"
    ∧ oracle.codec.decode
        (oracle.codec.encode ['a', ' '] (Text.ofString "a''") ++ Text.ofString "'''b")
      = Text.ofString "a''''b" := by
  have escaped : ∀ lead, css.codec.lead = some lead → lead ∉ (['a', ' '] : List CodePoint) := by
    rintro _ ⟨⟩
    decide
  have quoteEscaped : ∀ lead, oracle.codec.lead = some lead →
      lead ∉ (['a', ' '] : List CodePoint) := by
    rintro _ ⟨⟩
    decide
  refine ⟨escaped, ?_, ?_⟩
  · refine (decode_encode_characters (by decide) escaped _ _).trans ?_
    decide +kernel
  · refine (decode_encode_characters (by decide) quoteEscaped _ _).trans ?_
    decide +kernel

end Scheme

end Escaping
