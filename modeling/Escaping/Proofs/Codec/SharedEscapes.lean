import Escaping.Proofs.Codec.Generated
import Escaping.Proofs.Codec.ReferenceSyntax
import Escaping.Routine.Position

/-!
Escapes that two languages share. Every reference of XML is one of HTML, and every escape of JSON is
one of JavaScript: where the narrower language reads an escape, the wider one reads an escape that
ends in the same place. They stand for the same, save for numbers that HTML admits and XML does not.
No encoder writes those, so that what is written for the narrower language is read alike by both.
-/

namespace Escaping

namespace Position

variable {scheme : Scheme} {text : Text} {position : Int} {place : Place}

/-- The schemes whose escapes are one character after the lead. -/
def singles : List Scheme := [.posixShell, .windowsShell, .mySql, .oracle]

theorem fromEnd_of_not_mem (longer : scheme ∉ singles) (decoder : Decoder) :
    fromEnd scheme decoder text position
      = .ok ((decoder.findAt text 0).map fun found => ⟨found.text, found.stop⟩) := by
  cases scheme with
  | posixShell => exact absurd (by decide) longer
  | windowsShell => exact absurd (by decide) longer
  | mySql => exact absurd (by decide) longer
  | oracle => exact absurd (by decide) longer
  | _ => rfl

/-- An escape that is longer than one character starts with the lead at the position, and is read
from there on, or from the start of the text if the position counts from the end. -/
theorem find_eq_some_iff (longer : scheme ∉ singles) :
    find scheme text position = .ok (some place)
      ↔ ((rest text position).head? = scheme.codec.lead)
        ∧ ∃ found, scheme.codec.decodeAt text position.toNat = some found
          ∧ place = ⟨found.text, found.stop⟩ := by
  cases decodes : scheme.codec.decoder with
  | none =>
      have nothing : scheme.codec.decodeAt text position.toNat = none := by
        rw [Codec.decodeAt, decodes, Option.bind_none]
      simp [find, decodes, nothing]
  | some decoder =>
      have leads : scheme.codec.lead = some decoder.lead := by
        rw [Codec.lead, decodes]
        rfl
      rw [leads]
      by_cases counted : 0 ≤ position
      · rcases Int.eq_ofNat_of_zero_le counted with ⟨start, rfl⟩
        rw [find_ofNat, Int.toNat_natCast, Except.ok.injEq, Option.map_eq_some_iff]
        constructor
        · rintro ⟨found, matched, rfl⟩
          rcases (Codec.decodeAt_eq_some_iff decodes).mp matched with ⟨tail, _, here, _, _⟩
          have opens : (rest text start).head? = some decoder.lead := congrArg List.head? here
          exact ⟨opens, found, matched, rfl⟩
        · rintro ⟨_, found, matched, rfl⟩
          exact ⟨found, matched, rfl⟩
      · have start : position.toNat = 0 := Int.toNat_of_nonpos (by omega)
        rw [start, find, decodes]
        dsimp only
        rw [if_neg counted, fromEnd_of_not_mem longer]
        by_cases opens : (rest text position).head? = some decoder.lead
        · rw [if_pos opens, Except.ok.injEq, Option.map_eq_some_iff, Codec.decodeAt, decodes]
          constructor
          · rintro ⟨found, matched, rfl⟩
            exact ⟨opens, found, matched, rfl⟩
          · rintro ⟨_, found, matched, rfl⟩
            exact ⟨found, matched, rfl⟩
        · rw [if_neg opens]
          constructor
          · intro impossible
            cases impossible
          · rintro ⟨opening, _⟩
            exact absurd opening opens

end Position

section Alike

variable {lead : CodePoint} {narrow wide : Text → Option Unescaped} {grammar : EscapeGrammar}
  (readsGrammar : Decoder.ReadsGrammar ⟨lead, narrow⟩ grammar)
  (alike : ∀ {body rest : Text} {found : Unescaped}, grammar.body body →
    narrow (body ++ rest) = some found → wide (body ++ rest) = some found)
include readsGrammar alike

/-- Two decoders make the same of a generated text if one of them reads the escapes of the grammar as
the other one does. -/
theorem Decoder.scan_eq_of_alike {text : Text} (generates : grammar.Generates text) :
    Decoder.scan ⟨lead, wide⟩ text = Decoder.scan ⟨lead, narrow⟩ text := by
  fun_induction Decoder.scan ⟨lead, narrow⟩ text with
  | case1 => exact scan_nil
  | case2 head tail malformed induction =>
      rcases generates.uncons with ⟨stands, following⟩ | ⟨body, rest, opens, rfl, written, following⟩
      · have different : head ≠ lead := by
          rintro rfl
          exact readsGrammar.escaped (readsGrammar.lead ▸ stands)
        rw [scan_cons_of_ne different, induction following]
      · rcases readsGrammar.reads written following with ⟨found, read, _⟩
        rw [dif_pos (opens.trans readsGrammar.lead), read] at malformed
        cases malformed
  | case3 head tail found matched induction =>
      split at matched
      next opens =>
        rw [opens] at generates
        rcases generates.uncons with ⟨stands, _⟩ | ⟨body, rest, _, rfl, written, following⟩
        · exact absurd (readsGrammar.lead ▸ stands) readsGrammar.escaped
        · rcases readsGrammar.reads written following with ⟨again, read, remaining⟩
          cases matched.symm.trans read
          have wider : Decoder.scan ⟨lead, wide⟩ (lead :: (body ++ rest)) = _ :=
            scan_lead_of_some (alike written matched)
          rw [opens, wider, induction remaining]
      next => cases matched

/-- What a codec writes is read alike by every codec that reads the escapes of its grammar as its own
decoder does. -/
theorem Codec.decodePass_encode_of_alike {codec other : Codec}
    (decodes : codec.decoder = some ⟨lead, narrow⟩)
    (otherDecodes : other.decoder = some ⟨lead, wide⟩) {immune : List CodePoint}
    (raw : ∀ point ∈ immune, grammar.raw point)
    (written : ∀ point, grammar.Generates (codec.escape point)) (text : Text) :
    other.decodePass (codec.encode immune text) = codec.decodePass (codec.encode immune text) := by
  rw [decodePass_eq_scan otherDecodes, decodePass_eq_scan decodes]
  exact Decoder.scan_eq_of_alike readsGrammar alike (generates_encode raw written text)

end Alike

namespace CharacterReference

namespace Rules

/-- The digits of a reference by number at a position of a text denote this number. -/
inductive RefersAt (rules : Rules) (text : Text) (position : Nat) : Nat → Prop
  | intro {base closing : Nat} {marks digits rest : Text} :
      text.drop position = ampersand :: numberSign :: (marks ++ (digits ++ rest)) →
      rules.Marks base marks → DigitRun base digits rest → rules.Closes rest closing →
      RefersAt rules text position (Text.number base digits)

/-- The numbers that HTML admits and XML does not: most of the controls below the space, and the
last two of the basic plane. -/
def HtmlOnly (number : Nat) : Prop :=
  (0x1 ≤ number ∧ number ≤ 0x8) ∨ number = 0xb ∨ number = 0xc ∨ (0xe ≤ number ∧ number ≤ 0x1f)
    ∨ number = 0xfffe ∨ number = 0xffff

theorem htmlOnly_iff (number : Nat) :
    HtmlOnly number ↔ html.admits number = true ∧ ¬xml.admits number = true := by
  rw [html_admits_iff, xml_admits, Xml.isLegal_iff]
  unfold HtmlOnly
  omega

theorem represented_eq_of_xml {number : Nat} (admitted : xml.admits number = true) :
    html.represented number = xml.represented number :=
  (if_pos (html_admits_of_xml admitted)).trans (if_pos admitted).symm

/-- Both languages represent a number alike, unless only one of them admits it. -/
theorem represented_cases (number : Nat) :
    html.represented number = xml.represented number
      ∨ (HtmlOnly number ∧ xml.represented number = .replacement
        ∧ (html.represented number).val = number) := by
  by_cases inXml : xml.admits number = true
  · exact .inl (represented_eq_of_xml inXml)
  · by_cases inHtml : html.admits number = true
    · have itself : html.represented number = .ofNat number := if_pos inHtml
      refine .inr ⟨(htmlOnly_iff number).mpr ⟨inHtml, inXml⟩, if_neg inXml, ?_⟩
      rw [itself, CodePoint.val_ofNat (html.inCodeSpace inHtml)]
    · exact .inl ((if_neg inHtml).trans (if_neg inXml).symm)

theorem xml_names_subset : ∀ entry ∈ xml.names, entry ∈ html.names := by
  decide

theorem Marks.html_of_xml {base : Nat} {marks : Text} (marked : xml.Marks base marks) :
    html.Marks base marks := by
  cases marked with
  | decimal => exact .decimal
  | hexadecimal announced =>
      exact .hexadecimal (List.mem_cons.mpr (.inl (List.mem_singleton.mp announced)))

theorem Closes.html_of_xml {rest : Text} {closing : Nat} (closes : xml.Closes rest closing) :
    html.Closes rest closing := by
  cases closes with
  | closed ends => exact .closed ends
  | unclosed mayStayOpen => cases mayStayOpen

/-- A reference of XML is one of HTML with the same end. It stands for something else only by a
number that HTML alone admits. -/
theorem ReadsAt.html_of_xml {text : Text} {position : Nat} {found : Found}
    (reads : xml.ReadsAt text position found) :
    ∃ point, html.ReadsAt text position ⟨[point], found.stop⟩
      ∧ (found.text = [point] ∨ (found.text = [.replacement] ∧ HtmlOnly point.val
        ∧ xml.RefersAt text position point.val)) := by
  rcases reads with ⟨here, reads⟩
  cases reads with
  | name reads =>
      cases reads with
      | intro rest member =>
          have known := xml_names_subset _ member
          exact ⟨_, .intro here (.name (.intro rest known)), .inl rfl⟩
  | number reads =>
      cases reads with
      | @intro base closing marks digits rest marked run closes =>
          have number := ReadsNumber.intro marked.html_of_xml run closes.html_of_xml
          refine ⟨_, .intro here (.number number), ?_⟩
          rcases represented_cases (Text.number base digits) with alike | ⟨only, replaced, itself⟩
          · rw [alike]
            exact .inl rfl
          · rw [itself]
            exact .inr ⟨congrArg List.singleton replaced, only, .intro here marked run closes⟩

end Rules

end CharacterReference

namespace Html

open CharacterReference

/-- What XML writes for a code point is read by HTML as XML reads it. -/
theorem reads_xmlEscape {point : CodePoint} (special : point.isAlphanumeric = false) :
    Decoder.Reads ⟨ampersand, unescape⟩ (Xml.escape point) [Xml.legalized point] := by
  simp only [Xml.escape, special, Bool.false_eq_true, if_false]
  split
  next name written =>
    rcases Xml.mem_entities_of_nameOf? written with ⟨entry, member, number, rfl⟩
    have same : Xml.legalized point = point := if_pos (Xml.isLegal_of_nameOf? written)
    refine ⟨Text.ofString entry.1 ++ [semicolon], rfl, fun rest => ?_⟩
    have read := Rules.ReadsName.intro rest (Rules.xml_names_subset entry member)
    rw [List.append_assoc, List.singleton_append, List.length_append, List.length_singleton]
    dsimp only
    rw [same, ← CodePoint.ofNat_val point, ← number]
    exact unescape_eq_some_iff.mpr (.name read)
  next =>
    -- XML writes no number but those that it admits itself.
    have admitted : Rules.xml.admits (Xml.legalized point).val = true :=
      (Rules.xml_admits _).trans (Xml.isLegal_legalized point)
    have reads := reads_hexadecimal (Xml.legalized point).inRange
    rwa [← Rules.represented_html, Rules.represented_eq_of_xml admitted, Rules.represented_xml,
      Xml.ofReference_legalized, ← Xml.byNumber_eq] at reads

end Html

namespace CharacterReference

/-- References that both languages read as the same, whatever follows them. -/
def sharedGrammar (raw : CodePoint → Prop) : EscapeGrammar where
  lead := ampersand
  raw := raw
  body body := ∃ decoded, Decoder.Reads ⟨ampersand, Xml.unescape⟩ (ampersand :: body) decoded
    ∧ Decoder.Reads ⟨ampersand, Html.unescape⟩ (ampersand :: body) decoded

variable {raw : CodePoint → Prop}

theorem readsGrammar_shared (escaped : ¬raw ampersand) :
    Decoder.ReadsGrammar ⟨ampersand, Xml.unescape⟩ (sharedGrammar raw) := by
  refine .of_exact rfl escaped ?_
  rintro body rest ⟨decoded, ⟨_, ⟨⟩, read⟩, _⟩
  exact ⟨decoded, read rest⟩

theorem generates_xmlEscape
    (keeps : ∀ point : CodePoint, point.isAlphanumeric = true → raw point) (point : CodePoint) :
    (sharedGrammar raw).Generates (Xml.escape point) := by
  cases plain : point.isAlphanumeric with
  | true =>
      rw [Xml.faithful.raw plain]
      exact EscapeGrammar.generates_raw (keeps point plain)
  | false =>
      have inXml := Xml.reads_escape plain
      have inHtml := Html.reads_xmlEscape plain
      have opened := inXml
      rcases opened with ⟨body, written, _⟩
      rw [written] at inXml inHtml ⊢
      exact EscapeGrammar.generates_escape ⟨_, inXml, inHtml⟩

end CharacterReference

namespace StringLiteral

/-- The letters that stand for a character in both languages. -/
theorem mem_of_single? {letter point : CodePoint} (denotes : single? letter = some point) :
    letter ∈ ([doubleQuote, backslash, '/', 'b', 't', 'n', 'f', 'r'] : List CodePoint) := by
  apply Decidable.byContradiction
  intro absent
  simp only [List.mem_cons, List.not_mem_nil, or_false, not_or] at absent
  simp [single?, control?, absent] at denotes

end StringLiteral

namespace JavaScript

open StringLiteral

/-- The escapes of JavaScript that JSON lacks, from behind the backslash. -/
inductive Added : Text → Unescaped → Prop
  | byte {digits : Text} (hexadecimal : Text.IsHex 2 digits) (rest : Text) :
      Added (.ofChar 'x' :: (digits ++ rest)) ⟨[.ofNat (Text.number 16 digits)], 3⟩
  | verticalTab (rest : Text) : Added (.ofChar 'v' :: rest) ⟨[.ofNat 0xb], 1⟩
  | singleQuote (rest : Text) : Added (.ofNat 0x27 :: rest) ⟨[.ofNat 0x27], 1⟩

/-- An escape that JSON lacks at a position of a text. Where the position counts from the end, the
backslash is looked for there, but the escape is read from the start. -/
inductive AddedAt (text : Text) (position : Int) : Position.Place → Prop
  | intro {tail : Text} {unescaped : Unescaped} :
      (Position.rest text position).head? = some backslash →
      text.drop position.toNat = backslash :: tail → Added tail unescaped →
      AddedAt text position
        ⟨unescaped.text, ((position.toNat + 1 + unescaped.taken : Nat) : Int)⟩

variable {tail : Text} {found : Unescaped}

theorem unescape_of_json (read : Json.unescape tail = some found) :
    unescape tail = some found := by
  cases tail with
  | nil => cases read
  | cons letter rest =>
      rw [Json.unescape] at read
      split at read
      next unit =>
        rw [unit, unescape_unit]
        exact read
      next noUnit =>
        rcases Option.map_eq_some_iff.mp read with ⟨point, denotes, rfl⟩
        have apart : ∀ each ∈ ([doubleQuote, backslash, '/', 'b', 't', 'n', 'f', 'r'] :
            List CodePoint), each ≠ .ofChar 'x' ∧ each ≠ .ofChar 'v' ∧ each ≠ .ofNat 0x27 := by
          decide
        rcases apart letter (mem_of_single? denotes) with ⟨noByte, noTab, noQuote⟩
        rw [unescape, if_neg noByte, if_neg noUnit, single?, if_neg noTab, if_neg noQuote, denotes]
        rfl

/-- JavaScript reads what JSON reads and three kinds of escapes more. -/
theorem unescape_eq_some_iff :
    unescape tail = some found ↔ Json.unescape tail = some found ∨ Added tail found := by
  constructor
  · intro read
    cases tail with
    | nil => cases read
    | cons letter rest =>
        rw [unescape] at read
        split at read
        next byte =>
          rcases Option.map_eq_some_iff.mp read with ⟨number, here, rfl⟩
          rcases fixedHex?_eq_some_iff.mp here with ⟨digits, rest, rfl, hexadecimal, rfl⟩
          rw [byte]
          exact .inr (.byte hexadecimal rest)
        split at read
        next unit =>
          rw [unit, Json.unescape_unit]
          exact .inl read
        next noUnit =>
          rcases Option.map_eq_some_iff.mp read with ⟨point, denotes, rfl⟩
          unfold single? at denotes
          split at denotes
          next tab =>
            cases denotes
            rw [tab]
            exact .inr (.verticalTab rest)
          split at denotes
          next quote =>
            cases denotes
            rw [quote]
            exact .inr (.singleQuote rest)
          next =>
            rw [Json.unescape, if_neg noUnit, denotes]
            exact .inl rfl
  · rintro (read | added)
    · exact unescape_of_json read
    · cases added with
      | byte hexadecimal rest =>
          rw [unescape, if_pos rfl, readByte, fixedHex?_of_isHex hexadecimal]
          rfl
      | verticalTab => rfl
      | singleQuote => rfl

end JavaScript

namespace Scheme

open CharacterReference StringLiteral

/-- Where XML reads a reference, HTML reads one with the same end, and as the same code point, unless
it is by a number that HTML admits and XML replaces. Whatever XML writes is read alike by both. -/
theorem find_html_of_xml (text : Text) (position : Int) :
    (∀ place, Position.find xml text position = .ok (some place) →
      ∃ point, Position.find html text position = .ok (some ⟨[point], place.stop⟩)
        ∧ (place.text = [point] ∨ (place.text = [.replacement] ∧ Rules.HtmlOnly point.val
          ∧ Rules.xml.RefersAt text position.toNat point.val)))
    ∧ ∀ immune, ampersand ∉ immune →
      html.codec.decodePass (xml.codec.encode immune text)
        = xml.codec.decodePass (xml.codec.encode immune text) := by
  constructor
  · intro place matched
    rcases (Position.find_eq_some_iff (by decide)).mp matched with ⟨opens, found, inXml, rfl⟩
    have reads := (Rules.decodeAt_eq_some_iff rfl Xml.unescape_eq_some_iff).mp inXml
    rcases reads.html_of_xml with ⟨point, wider, same⟩
    have inHtml : html.codec.decodeAt text position.toNat = some ⟨[point], found.stop⟩ :=
      (Rules.decodeAt_eq_some_iff rfl Html.unescape_eq_some_iff).mpr wider
    refine ⟨point, (Position.find_eq_some_iff (by decide)).mpr ?_, same⟩
    exact ⟨opens, _, inHtml, rfl⟩
  · intro immune escaped
    have raw : ∀ point ∈ immune, point ≠ ampersand :=
      fun point kept => ne_of_mem_of_not_mem kept escaped
    have written := generates_xmlEscape fun point plain =>
      CodePoint.ne_of_alphanumeric plain (by decide : ampersand.isAlphanumeric = false)
    have readsGrammar := @readsGrammar_shared (· ≠ ampersand) fun different => different rfl
    refine Codec.decodePass_encode_of_alike readsGrammar ?_ rfl rfl raw written text
    rintro body rest found ⟨decoded, ⟨_, ⟨⟩, inXml⟩, ⟨_, ⟨⟩, inHtml⟩⟩ read
    exact (inHtml rest).trans ((inXml rest).symm.trans read)

/-- A control that XML replaces although HTML does not, and a text in which both read the same. -/
theorem find_html_of_xml_control :
    Position.find xml (Text.ofString "a&#001;b") 1 = .ok (some ⟨[.replacement], 7⟩)
    ∧ Position.find html (Text.ofString "a&#001;b") 1 = .ok (some ⟨[.ofNat 0x1], 7⟩)
    ∧ Rules.xml.RefersAt (Text.ofString "a&#001;b") 1 0x1
    ∧ ampersand ∉ ([' '] : List CodePoint)
    ∧ html.codec.decodePass (xml.codec.encode [' '] [.ofNat 0x1, ' ', .ofNat 0x27, '<'])
      = ⟨[.replacement, ' ', .ofNat 0x27, '<'], 3⟩ := by
  have inXml : Position.find xml (Text.ofString "a&#001;b") 1
      = .ok (some ⟨[.replacement], 7⟩) :=
    (Position.find_ofNat xml _ 1).trans (congrArg Except.ok (by decide +kernel))
  have inHtml : Position.find html (Text.ofString "a&#001;b") 1
      = .ok (some ⟨[.ofNat 0x1], 7⟩) :=
    (Position.find_ofNat html _ 1).trans (congrArg Except.ok (by decide +kernel))
  have escaped : ampersand ∉ ([' '] : List CodePoint) := by decide
  refine ⟨inXml, inHtml, ?_, escaped, ?_⟩
  · rcases (find_html_of_xml (Text.ofString "a&#001;b") 1).1 _ inXml with
      ⟨point, found, same | ⟨_, _, refers⟩⟩
    · cases inHtml.symm.trans found
      exact absurd same (by decide)
    · cases inHtml.symm.trans found
      exact refers
  · refine ((find_html_of_xml [.ofNat 0x1, ' ', .ofNat 0x27, '<'] 0).2 [' '] escaped).trans ?_
    decide +kernel

/-- JavaScript reads the escapes of JSON as the same, and beyond them only bytes, the vertical tab
and the single quote. Whatever JSON writes is read alike by both. -/
theorem find_javaScript_iff (text : Text) (position : Int) :
    (∀ place, Position.find javaScript text position = .ok (some place)
      ↔ Position.find json text position = .ok (some place)
        ∨ JavaScript.AddedAt text position place)
    ∧ ∀ immune, backslash ∉ immune →
      javaScript.codec.decodePass (json.codec.encode immune text)
        = json.codec.decodePass (json.codec.encode immune text) := by
  constructor
  · intro place
    rw [Position.find_eq_some_iff (by decide), Position.find_eq_some_iff (by decide)]
    have inJavaScript := @Codec.decodeAt_eq_some_iff javaScript.codec _ text position.toNat rfl
    have inJson := @Codec.decodeAt_eq_some_iff json.codec _ text position.toNat rfl
    constructor
    · rintro ⟨opens, found, matched, rfl⟩
      rcases inJavaScript.mp matched with ⟨tail, unescaped, here, read, rfl⟩
      rcases JavaScript.unescape_eq_some_iff.mp read with shared | added
      · exact .inl ⟨opens, _, inJson.mpr ⟨tail, unescaped, here, shared, rfl⟩, rfl⟩
      · exact .inr (.intro opens here added)
    · rintro (⟨opens, found, matched, rfl⟩ | ⟨opens, here, added⟩)
      · rcases inJson.mp matched with ⟨tail, unescaped, here, shared, rfl⟩
        have read := JavaScript.unescape_of_json shared
        exact ⟨opens, _, inJavaScript.mpr ⟨tail, unescaped, here, read, rfl⟩, rfl⟩
      · have read := JavaScript.unescape_eq_some_iff.mpr (.inr added)
        exact ⟨opens, _, inJavaScript.mpr ⟨_, _, here, read, rfl⟩, rfl⟩
  · intro immune escaped
    have raw : ∀ point ∈ immune, point ≠ backslash :=
      fun point kept => ne_of_mem_of_not_mem kept escaped
    have written := Json.generates_escape fun point plain => plain.2.2.1
    have readsGrammar := @Json.readsGrammar (· ≠ backslash) fun different => different rfl
    refine Codec.decodePass_encode_of_alike readsGrammar ?_ rfl rfl raw written text
    exact fun _ read => JavaScript.unescape_of_json read

/-- A unit after a byte, and a text with a surrogate in it that is read as it was written. -/
theorem find_javaScript_iff_byteBeforeUnit :
    Position.find javaScript (Text.ofString "\\x5cu0041") 0 = .ok (some ⟨[.ofNat 0x5c], 4⟩)
    ∧ JavaScript.AddedAt (Text.ofString "\\x5cu0041") 0 ⟨[.ofNat 0x5c], 4⟩
    ∧ backslash ∉ (['u', '/'] : List CodePoint)
    ∧ javaScript.codec.decodePass (json.codec.encode ['u', '/']
        [.ofNat 0x5c, 'u', '/', .ofNat 0xd83d, .ofNat 0xa])
      = ⟨[.ofNat 0x5c, 'u', '/', .ofNat 0xd83d, .ofNat 0xa], 3⟩ := by
  have read : Position.find javaScript (Text.ofString "\\x5cu0041") 0
      = .ok (some ⟨[.ofNat 0x5c], 4⟩) :=
    (Position.find_ofNat javaScript _ 0).trans (congrArg Except.ok (by decide +kernel))
  have notJson : Position.find json (Text.ofString "\\x5cu0041") 0 = .ok none :=
    (Position.find_ofNat json _ 0).trans (congrArg Except.ok (by decide +kernel))
  have escaped : backslash ∉ (['u', '/'] : List CodePoint) := by decide
  refine ⟨read, ?_, escaped, ?_⟩
  · rcases ((find_javaScript_iff _ 0).1 _).mp read with inJson | added
    · cases notJson.symm.trans inJson
    · exact added
  · refine ((find_javaScript_iff _ 0).2 _ escaped).trans ?_
    decide +kernel

end Scheme

end Escaping
