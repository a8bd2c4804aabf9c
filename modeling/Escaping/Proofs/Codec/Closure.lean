import Escaping.Proofs.Codec.ReferenceSyntax
import Escaping.Proofs.Codec.RoundTrip

/-!
What decoding cannot bring into a text. Every scheme makes code points in its own way, and none but
those of string literals makes a surrogate. References and the escapes of a style sheet make no NUL
either, and references of XML make only what a document can hold. Some escapes give back a character
of the text itself, so what decoding keeps out has to be absent from the text to begin with.
-/

namespace Escaping

/-- Escapes in a text of allowed code points stand for allowed ones. -/
structure Decoder.Keeps (decoder : Decoder) (allowed : CodePoint → Prop) : Prop where
  unescape : ∀ {tail : Text} {found : Unescaped}, decoder.unescape tail = some found →
    (∀ point ∈ tail, allowed point) → ∀ point ∈ found.text, allowed point

/-- Decoding a text of allowed code points gives allowed ones. -/
def Codec.Keeps (codec : Codec) (allowed : CodePoint → Prop) : Prop :=
  ∀ text : Text, (∀ point ∈ text, allowed point) → ∀ point ∈ codec.decode text, allowed point

variable {allowed : CodePoint → Prop}

theorem Decoder.Keeps.scan {decoder : Decoder} (keeps : decoder.Keeps allowed) {text : Text}
    (each : ∀ point ∈ text, allowed point) : ∀ point ∈ (decoder.scan text).text, allowed point := by
  fun_induction Decoder.scan decoder text with
  | case1 => exact each
  | case2 head tail malformed induction =>
      rcases List.forall_mem_cons.mp each with ⟨first, others⟩
      rw [Replaced.text_keep, List.singleton_append]
      exact List.forall_mem_cons.mpr ⟨first, induction others⟩
  | case3 head tail found matched induction =>
      split at matched
      next =>
        have others := (List.forall_mem_cons.mp each).2
        have behind := induction fun point member => others point (List.mem_of_mem_drop member)
        rw [Replaced.text_replace]
        exact List.forall_mem_append.mpr ⟨keeps.unescape matched others, behind⟩
      next => cases matched

theorem Decoder.Keeps.codec {codec : Codec} {decoder : Decoder}
    (decodes : codec.decoder = some decoder) (keeps : decoder.Keeps allowed) :
    codec.Keeps allowed := by
  intro text each
  rw [Codec.decode_eq_scan decodes]
  exact keeps.scan each

theorem Codec.keeps_of_none {codec : Codec} (encodesOnly : codec.decoder = none) :
    codec.Keeps allowed := by
  intro text each
  rwa [Codec.decode, Codec.decodePass_of_none encodesOnly]

namespace CharacterReference

variable {rules : Rules}

/-- Whatever a reference by number stands for is admitted, as long as the replacement is. -/
theorem Rules.admits_represented (replaces : rules.admits CodePoint.replacement.val = true)
    (number : Nat) : rules.admits (rules.represented number).val = true := by
  unfold Rules.represented
  split
  next admitted => rwa [CodePoint.val_ofNat (rules.inCodeSpace admitted)]
  next => exact replaces

theorem Rules.Reads.admits (replaces : rules.admits CodePoint.replacement.val = true)
    (names : ∀ entry ∈ rules.names, rules.admits entry.2 = true) {text : Text} {found : Unescaped}
    (reads : rules.Reads text found) : ∀ point ∈ found.text, rules.admits point.val = true := by
  cases reads with
  | number reads =>
      cases reads with
      | intro marked run closes =>
          exact List.forall_mem_singleton.mpr (rules.admits_represented replaces _)
  | name reads =>
      cases reads with
      | intro rest member =>
          have admitted := names _ member
          refine List.forall_mem_singleton.mpr ?_
          rwa [CodePoint.val_ofNat (rules.inCodeSpace admitted)]

end CharacterReference

section References

open CharacterReference

/-- References of HTML give nothing but what HTML admits. -/
theorem Html.keeps (admitted : ∀ point : CodePoint,
    Rules.html.admits point.val = true → allowed point) :
    Decoder.Keeps ⟨ampersand, Html.unescape⟩ allowed := by
  constructor
  intro tail found matched _ point member
  have reads := Html.unescape_eq_some_iff.mp matched
  exact admitted point (reads.admits (by decide) (by decide +kernel) point member)

theorem Xml.keeps (admitted : ∀ point : CodePoint,
    Rules.xml.admits point.val = true → allowed point) :
    Decoder.Keeps ⟨ampersand, Xml.unescape⟩ allowed := by
  constructor
  intro tail found matched _ point member
  have reads := Xml.unescape_eq_some_iff.mp matched
  exact admitted point (reads.admits (by decide) (by decide) point member)

/-- A style sheet gives by number what HTML does. -/
theorem Css.keeps (admitted : ∀ point : CodePoint,
    Rules.html.admits point.val = true → allowed point) :
    Decoder.Keeps ⟨Css.backslash, Css.unescape⟩ allowed := by
  constructor
  intro tail found matched _
  simp only [Css.unescape] at matched
  split at matched
  · cases matched
  · rw [← Option.some.inj matched]
    refine List.forall_mem_singleton.mpr (admitted _ ?_)
    rw [← Rules.represented_html]
    exact Rules.html.admits_represented (by decide) _

end References

/-- Octets read as UTF-8 give no surrogate, not even where they are those of one. -/
theorem OctetRun.keeps_scalar (lead : CodePoint) :
    Decoder.Keeps ⟨lead, OctetRun.unescape lead⟩ (·.isSurrogate = false) := by
  constructor
  intro tail found matched _ point member
  simp only [OctetRun.unescape] at matched
  split at matched
  · cases matched
  · rw [← Option.some.inj matched] at member
    exact Utf8.isSurrogate_of_mem_decode member

theorem Shell.keeps (lead : CodePoint) : Decoder.Keeps ⟨lead, Shell.unescape⟩ allowed := by
  constructor
  intro tail found matched each
  cases tail with
  | nil => cases matched
  | cons point rest =>
      cases matched
      exact List.forall_mem_singleton.mpr (each point List.mem_cons_self)

/-- An escape gives a control character or the character that it is written with. -/
theorem MySql.keeps (controlled : ∀ entry ∈ MySql.controls, allowed (.ofNat entry.1)) :
    Decoder.Keeps ⟨MySql.backslash, MySql.unescape⟩ allowed := by
  constructor
  intro tail found matched each
  cases tail with
  | nil => cases matched
  | cons letter rest =>
      cases matched
      refine List.forall_mem_singleton.mpr ?_
      cases read : MySql.control? letter with
      | none => exact each letter List.mem_cons_self
      | some point =>
          rcases Option.map_eq_some_iff.mp read with ⟨entry, inTable, rfl⟩
          exact controlled entry (List.mem_of_find?_eq_some inTable)

theorem Oracle.keeps : Decoder.Keeps ⟨Oracle.quote, Oracle.unescape⟩ allowed := by
  constructor
  intro tail found matched each
  cases tail with
  | nil => cases matched
  | cons point rest =>
      simp only [Oracle.unescape] at matched
      split at matched
      next quote =>
        cases matched
        exact List.forall_mem_singleton.mpr (quote ▸ each point List.mem_cons_self)
      next => cases matched

namespace Scheme

open CharacterReference

variable {scheme : Scheme}

private theorem scalar_of_html {point : CodePoint} (admitted : Rules.html.admits point.val = true) :
    point.isSurrogate = false := by
  rw [Rules.html_admits_iff] at admitted
  simp only [CodePoint.isSurrogate, Bool.and_eq_false_iff, decide_eq_false_iff_not]
  omega

/-- No scheme but those of string literals makes a surrogate. -/
theorem keeps_scalar (noUnits : scheme ∉ unitLiterals) :
    scheme.codec.Keeps (·.isSurrogate = false) := by
  have inHtml : ∀ point : CodePoint, Rules.html.admits point.val = true →
      point.isSurrogate = false := fun point => scalar_of_html
  have inXml : ∀ point : CodePoint, Rules.xml.admits point.val = true →
      point.isSurrogate = false := fun point admitted =>
    scalar_of_html (Rules.html_admits_of_xml admitted)
  cases scheme with
  | html => exact (Html.keeps inHtml).codec rfl
  | percent => exact (OctetRun.keeps_scalar _).codec rfl
  | javaScript => exact absurd (by decide) noUnits
  | vbScript => exact Codec.keeps_of_none rfl
  | css => exact (Css.keeps inHtml).codec rfl
  | ldapFilter => exact (OctetRun.keeps_scalar _).codec rfl
  | ldapName => exact (OctetRun.keeps_scalar _).codec rfl
  | xml => exact (Xml.keeps inXml).codec rfl
  | xmlAttribute => exact (Xml.keeps inXml).codec rfl
  | xPath => exact (Html.keeps inHtml).codec rfl
  | json => exact absurd (by decide) noUnits
  | posixShell => exact (Shell.keeps _).codec rfl
  | windowsShell => exact (Shell.keeps _).codec rfl
  | mySql => exact (MySql.keeps (by decide)).codec rfl
  | oracle => exact Oracle.keeps.codec rfl

/-- Markup and style sheets make no NUL. -/
theorem keeps_nonzero (member : scheme ∈ .css :: markup) : scheme.codec.Keeps (·.val ≠ 0) := by
  have inHtml : ∀ point : CodePoint, Rules.html.admits point.val = true → point.val ≠ 0 := by
    intro point admitted
    rw [Rules.html_admits_iff] at admitted
    omega
  have inXml : ∀ point : CodePoint, Rules.xml.admits point.val = true → point.val ≠ 0 :=
    fun point admitted => inHtml point (Rules.html_admits_of_xml admitted)
  simp only [markup, List.mem_cons, List.not_mem_nil, or_false] at member
  rcases member with rfl | rfl | rfl | rfl | rfl
  · exact (Css.keeps inHtml).codec rfl
  · exact (Html.keeps inHtml).codec rfl
  · exact (Html.keeps inHtml).codec rfl
  · exact (Xml.keeps inXml).codec rfl
  · exact (Xml.keeps inXml).codec rfl

/-- XML makes nothing that no document can hold. -/
theorem keeps_legal (member : scheme ∈ [xml, xmlAttribute]) :
    scheme.codec.Keeps (scheme.excludes · = false) := by
  have legal : ∀ point : CodePoint, Rules.xml.admits point.val = true →
      xml.excludes point = false := by
    intro point admitted
    rwa [Rules.xml_admits, isLegal_eq_not_excludes, Bool.not_eq_true'] at admitted
  simp only [List.mem_cons, List.not_mem_nil, or_false] at member
  rcases member with rfl | rfl
  · exact (Xml.keeps legal).codec rfl
  · exact (Xml.keeps legal).codec rfl

end Scheme

end Escaping
