import Escaping.Proofs.Codec.CharacterEscape
import Escaping.Proofs.Codec.CharacterReference
import Escaping.Proofs.Codec.Escapes
import Escaping.Proofs.Codec.OctetRun
import Escaping.Proofs.Codec.StringLiteral

/-!
The grammars of the codecs. Each codec writes texts of one grammar. Octet runs, JSON, the shells and
the dialects of SQL also read theirs, although a reader may take several escapes at once: a run of
octets, or the two units of a pair.
-/

namespace Escaping

/-- A decoder that takes every escape on its own reads its grammar. -/
theorem Decoder.ReadsGrammar.of_exact {decoder : Decoder} {grammar : EscapeGrammar}
    (lead : grammar.lead = decoder.lead) (escaped : ¬grammar.raw grammar.lead)
    (exact : ∀ {body rest : Text}, grammar.body body →
      ∃ decoded, decoder.unescape (body ++ rest) = some ⟨decoded, body.length⟩) :
    decoder.ReadsGrammar grammar where
  lead := lead
  escaped := escaped
  reads := by
    intro body rest written following
    rcases exact written with ⟨decoded, read⟩
    exact ⟨⟨decoded, body.length⟩, read, by rwa [List.drop_left]⟩

namespace OctetRun

variable {lead : CodePoint} {raw : CodePoint → Prop} {print : Nat → CodePoint}

/-- Two hexadecimal digits follow the lead. -/
def grammar (lead : CodePoint) (raw : CodePoint → Prop) : EscapeGrammar := ⟨lead, raw, Text.IsHex 2⟩

theorem generates_escape (prints : Digits.PrintsHex print) (point : CodePoint) :
    (grammar lead raw).Generates (escape lead print point) := by
  rw [escape_eq]
  apply EscapeGrammar.generates_flatMap
  intro octet _
  exact EscapeGrammar.generates_escape (prints.isHex_fixed 2 octet.toNat)

/-- The digits of an escape write an octet of the run. -/
theorem runAt_body {body : Text} (digits : Text.IsHex 2 body) (rest : Text) :
    ∃ octet, runAt lead (lead :: (body ++ rest)) = octet :: runAt lead rest := by
  match body, digits with
  | [high, low], digits =>
      have hexadecimal : high.isHexDigit = true ∧ low.isHexDigit = true :=
        ⟨digits.isHexDigit high (by simp), digits.isHexDigit low (by simp)⟩
      rw [runAt_lead]
      exact ⟨_, read_cons (if_pos hexadecimal) rest⟩
  | [], digits => cases digits.length_eq
  | [_], digits => cases digits.length_eq
  | _ :: _ :: _ :: _, digits => cases digits.length_eq

/-- Behind a run the text is generated again. -/
theorem generates_drop_runAt (escaped : ¬raw lead) {text : Text}
    (generates : (grammar lead raw).Generates text) :
    (grammar lead raw).Generates (text.drop (3 * (runAt lead text).length)) := by
  induction generates with
  | nil => exact .nil
  | @raw point rest stands following _ =>
      have different : point ≠ lead := fun equal => escaped (equal ▸ stands)
      have empty : runAt lead (point :: rest) = [] := if_neg different
      rw [empty]
      exact .raw stands following
  | @escape body rest digits _ induction =>
      rcases runAt_body digits rest with ⟨octet, run⟩
      have width : 3 * (runAt lead rest).length + 3
          = (lead :: body).length + 3 * (runAt lead rest).length := by
        rw [List.length_cons, digits.length_eq]
        omega
      change (grammar lead raw).Generates ((lead :: (body ++ rest)).drop
        (3 * (runAt lead (lead :: (body ++ rest))).length))
      rw [run, List.length_cons, Nat.mul_succ, width, ← List.cons_append,
        List.drop_length_add_append]
      exact induction

theorem readsGrammar (escaped : ¬raw lead) :
    Decoder.ReadsGrammar ⟨lead, unescape lead⟩ (grammar lead raw) where
  lead := rfl
  escaped := escaped
  reads := by
    intro body rest digits following
    have opening : ∃ octet, runAt lead (lead :: (body ++ rest)) = octet :: runAt lead rest :=
      runAt_body digits rest
    rcases opening with ⟨octet, run⟩
    rcases unescape_of_runAt (run ▸ List.cons_ne_nil _ _) with ⟨tail, equal, read⟩
    cases equal
    have taken : 3 * (runAt lead (lead :: (body ++ rest))).length - 1
        = body.length + 3 * (runAt lead rest).length := by
      rw [run, List.length_cons, digits.length_eq]
      omega
    refine ⟨_, read, ?_⟩
    dsimp only
    rw [taken, List.drop_length_add_append]
    exact generates_drop_runAt escaped following

end OctetRun

theorem Ldap.generates_escape {isSafe : CodePoint → Bool} {raw : CodePoint → Prop}
    (keeps : ∀ point, isSafe point = true → raw point) (point : CodePoint) :
    (OctetRun.grammar backslash raw).Generates (escape isSafe point) := by
  unfold escape
  split
  next safe => exact EscapeGrammar.generates_raw (keeps point safe)
  next => exact OctetRun.generates_escape Digits.printsHex_lowerDigit point

namespace StringLiteral

/-- A unit is read alone, or together with the unit of a low surrogate after it. -/
theorem readUnit_body {digits : Text} (hexadecimal : Text.IsHex 4 digits) (rest : Text) :
    ∃ decoded, readUnit (digits ++ rest) = some ⟨decoded, 5⟩
      ∨ (readUnit (digits ++ rest) = some ⟨decoded, 11⟩ ∧ lowUnit? rest ≠ none) := by
  have dropped : (digits ++ rest).drop 4 = rest := List.drop_left' hexadecimal.length_eq
  rw [readUnit, fixedHex?_of_isHex hexadecimal, dropped, Option.map_some]
  split
  next low second =>
    split at second
    · exact ⟨_, .inr ⟨rfl, second ▸ Option.some_ne_none low⟩⟩
    · cases second
  next => exact ⟨_, .inl rfl⟩

end StringLiteral

namespace JavaScript

open StringLiteral

/-- The letter x with two hexadecimal digits, or u with four of them. -/
inductive Body : Text → Prop
  | byte {digits : Text} (hexadecimal : Text.IsHex 2 digits) : Body (.ofChar 'x' :: digits)
  | unit {digits : Text} (hexadecimal : Text.IsHex 4 digits) : Body (.ofChar 'u' :: digits)

def grammar (raw : CodePoint → Prop) : EscapeGrammar := ⟨backslash, raw, Body⟩

theorem generates_unitEscape (raw : CodePoint → Prop) (unit : Nat) :
    (grammar raw).Generates (unitEscape .upperDigit unit) :=
  EscapeGrammar.generates_escape (.unit (Digits.printsHex_upperDigit.isHex_fixed 4 unit))

theorem generates_escape {raw : CodePoint → Prop}
    (keeps : ∀ point : CodePoint, point.isAlphanumeric = true → raw point) (point : CodePoint) :
    (grammar raw).Generates (escape point) := by
  unfold escape
  split
  next plain => exact EscapeGrammar.generates_raw (keeps point plain)
  next =>
    unfold byNumber
    split
    · exact EscapeGrammar.generates_escape
        (.byte (Digits.printsHex_upperDigit.isHex_fixed 2 point.val))
    split
    · exact generates_unitEscape raw _
    · exact (generates_unitEscape raw _).append (generates_unitEscape raw _)

end JavaScript

namespace Json

open StringLiteral

/-- A letter or sign that stands for a character, or the letter u with four hexadecimal digits. -/
inductive Body : Text → Prop
  | short {letter point : CodePoint} (noUnit : letter ≠ .ofChar 'u')
      (denotes : single? letter = some point) : Body [letter]
  | unit {digits : Text} (hexadecimal : Text.IsHex 4 digits) : Body (.ofChar 'u' :: digits)

def grammar (raw : CodePoint → Prop) : EscapeGrammar := ⟨backslash, raw, Body⟩

variable {raw : CodePoint → Prop}

/-- What stands for itself in a literal: all but controls, the quote, the backslash and
surrogates. -/
def isPlain (point : CodePoint) : Prop :=
  0x20 ≤ point.val ∧ point ≠ doubleQuote ∧ point ≠ backslash ∧ point.isSurrogate = false

theorem generates_escape (keeps : ∀ point, isPlain point → raw point) (point : CodePoint) :
    (grammar raw).Generates (escape point) := by
  unfold escape
  split
  next sign =>
    have denotes : point ≠ .ofChar 'u' ∧ single? point = some point := by
      rcases sign with rfl | rfl <;> decide
    exact EscapeGrammar.generates_escape (.short denotes.1 denotes.2)
  next noSign =>
    split
    next letter written =>
      rcases single?_controlLetter? written with ⟨noUnit, denotes⟩
      exact EscapeGrammar.generates_escape (.short noUnit denotes)
    next =>
      split
      next =>
        exact EscapeGrammar.generates_escape
          (.unit (Digits.printsHex_lowerDigit.isHex_fixed 4 point.val))
      next plain =>
        rcases not_or.mp noSign with ⟨noQuote, noBackslash⟩
        rcases not_or.mp plain with ⟨noControl, scalar⟩
        exact EscapeGrammar.generates_raw
          (keeps point ⟨Nat.not_lt.mp noControl, noQuote, noBackslash, by simpa using scalar⟩)

/-- Behind the unit of a low surrogate the text is generated again. -/
theorem generates_drop_lowUnit (escaped : ¬raw backslash) {text : Text}
    (generates : (grammar raw).Generates text) (read : lowUnit? text ≠ none) :
    (grammar raw).Generates (text.drop 6) := by
  unfold lowUnit? at read
  split at read
  next lead letter digits =>
    split at read
    next starts =>
      rcases starts with ⟨rfl, rfl⟩
      rcases generates.uncons with ⟨stands, _⟩ | ⟨body, rest, _, equal, written, following⟩
      · exact absurd stands escaped
      · cases written with
        | short noUnit denotes => exact absurd (List.cons.inj equal).1.symm noUnit
        | unit hexadecimal =>
            rw [equal, List.drop_succ_cons, List.cons_append, List.drop_succ_cons,
              List.drop_left' hexadecimal.length_eq]
            exact following
    next => exact absurd rfl read
  next => exact absurd rfl read

theorem readsGrammar (escaped : ¬raw backslash) :
    Decoder.ReadsGrammar ⟨backslash, unescape⟩ (grammar raw) where
  lead := rfl
  escaped := escaped
  reads := by
    intro body rest written following
    cases written with
    | @short letter point noUnit denotes =>
        refine ⟨⟨[point], 1⟩, ?_, following⟩
        dsimp only
        rw [List.singleton_append, unescape, if_neg noUnit, denotes]
        rfl
    | @unit digits hexadecimal =>
        have behind : ∀ count,
            (.ofChar 'u' :: (digits ++ rest)).drop (count + 5) = rest.drop count := by
          intro count
          have width : count + 4 = digits.length + count := by
            rw [hexadecimal.length_eq, Nat.add_comm]
          rw [List.drop_succ_cons, width, List.drop_length_add_append]
        rcases readUnit_body hexadecimal rest with ⟨decoded, alone | ⟨both, low⟩⟩
        · exact ⟨_, (unescape_unit _).trans alone, behind 0 ▸ following⟩
        · have remaining := generates_drop_lowUnit escaped following low
          exact ⟨_, (unescape_unit _).trans both, behind 6 ▸ remaining⟩

end Json

namespace Css

/-- One to six hexadecimal digits and a space. -/
inductive Body : Text → Prop
  | digits {digits : Text} (nonempty : 1 ≤ digits.length) (short : digits.length ≤ 6)
      (hexadecimal : ∀ point ∈ digits, point.isHexDigit = true) : Body (digits ++ [space])

def grammar (raw : CodePoint → Prop) : EscapeGrammar := ⟨backslash, raw, Body⟩

theorem generates_escape {raw : CodePoint → Prop}
    (keeps : ∀ point : CodePoint, point.isAlphanumeric = true → raw point) (point : CodePoint) :
    (grammar raw).Generates (escape point) := by
  have byNumber : ∀ {number : Nat}, number < 0x110000 →
      (grammar raw).Generates (byNumber number) := by
    intro number inside
    have nonempty := List.length_pos_iff.mpr (Text.lowerHex_ne_nil number)
    exact EscapeGrammar.generates_escape (.digits nonempty (length_lowerHex_le inside)
      fun point member => Text.isHexDigit_of_mem_lowerHex member)
  unfold escape
  split
  next plain => exact EscapeGrammar.generates_raw (keeps point plain)
  next =>
    split
    · exact byNumber CodePoint.replacement.inRange
    · exact byNumber point.inRange

end Css

namespace CharacterReference

/-- Letters, digits and number signs up to a semicolon, which a reader takes as one reference
whatever follows. -/
inductive Body (unescape : Text → Option Unescaped) : Text → Prop
  | closed {inner : Text} {decoded : Text}
      (enclosed : ∀ point ∈ inner, point.isAlphanumeric = true ∨ point = numberSign)
      (reads : Decoder.Reads ⟨ampersand, unescape⟩ (ampersand :: (inner ++ [semicolon])) decoded) :
      Body unescape (inner ++ [semicolon])

def grammar (unescape : Text → Option Unescaped) (raw : CodePoint → Prop) : EscapeGrammar :=
  ⟨ampersand, raw, Body unescape⟩

/-- A text is a reference from its ampersand to its semicolon. -/
def IsClosed (text : Text) : Prop :=
  ∃ inner, text = ampersand :: (inner ++ [semicolon])
    ∧ ∀ point ∈ inner, point.isAlphanumeric = true ∨ point = numberSign

theorem isClosed_hexadecimal (number : Nat) : IsClosed (hexadecimal number) := by
  refine ⟨numberSign :: .ofChar 'x' :: Text.lowerHex number, hexadecimal_eq number, ?_⟩
  intro point member
  rcases List.mem_cons.mp member with rfl | later
  · exact .inr rfl
  · rcases List.mem_cons.mp later with rfl | digit
    · exact .inl (by decide)
    · exact .inl (CodePoint.isAlphanumeric_of_isHexDigit (Text.isHexDigit_of_mem_lowerHex digit))

theorem isClosed_named {name : Text} (alphanumeric : ∀ each ∈ name, each.isAlphanumeric = true) :
    IsClosed (named name) :=
  ⟨name, rfl, fun point member => .inl (alphanumeric point member)⟩

/-- References that are closed and read back are what the grammar generates. -/
theorem Faithful.generates_escape {escape : CodePoint → Text} {unescape : Text → Option Unescaped}
    {image : CodePoint → CodePoint} (faithful : Faithful escape unescape image)
    (closed : ∀ {point : CodePoint}, point.isAlphanumeric = false → IsClosed (escape point))
    {raw : CodePoint → Prop} (keeps : ∀ point : CodePoint, point.isAlphanumeric = true → raw point)
    (point : CodePoint) : (grammar unescape raw).Generates (escape point) := by
  cases plain : point.isAlphanumeric with
  | true =>
      rw [faithful.raw plain]
      exact EscapeGrammar.generates_raw (keeps point plain)
  | false =>
      have reads := faithful.reads plain
      rcases closed plain with ⟨inner, written, enclosed⟩
      rw [written] at reads ⊢
      exact EscapeGrammar.generates_escape (.closed enclosed reads)

end CharacterReference

theorem Html.isClosed_escape {point : CodePoint} (special : point.isAlphanumeric = false) :
    CharacterReference.IsClosed (escape point) := by
  simp only [escape, special, Bool.false_eq_true, if_false]
  split
  next name found =>
    split at found
    · cases found
    · exact CharacterReference.isClosed_named (EntityNames.readable_of_nameOf? found).1
  next => exact CharacterReference.isClosed_hexadecimal _

theorem Xml.isClosed_escape {point : CodePoint} (special : point.isAlphanumeric = false) :
    CharacterReference.IsClosed (escape point) := by
  have alphanumeric : ∀ entry ∈ entities, ∀ each ∈ Text.ofString entry.1,
      each.isAlphanumeric = true := by decide
  simp only [escape, special, Bool.false_eq_true, if_false]
  split
  next name written =>
    rcases mem_entities_of_nameOf? written with ⟨entry, member, _, rfl⟩
    exact CharacterReference.isClosed_named (alphanumeric entry member)
  next => exact CharacterReference.isClosed_hexadecimal _

namespace Shell

/-- Any one character follows the lead. -/
def grammar (lead : CodePoint) (raw : CodePoint → Prop) : EscapeGrammar :=
  ⟨lead, raw, fun body => ∃ point, body = [point]⟩

theorem generates_escape {lead : CodePoint} {raw : CodePoint → Prop}
    (keeps : ∀ point : CodePoint, point.isAlphanumeric = true → raw point) (point : CodePoint) :
    (grammar lead raw).Generates (escape lead point) := by
  unfold escape
  split
  next plain => exact EscapeGrammar.generates_raw (keeps point plain)
  next => exact EscapeGrammar.generates_escape ⟨point, rfl⟩

theorem readsGrammar {lead : CodePoint} {raw : CodePoint → Prop} (escaped : ¬raw lead) :
    Decoder.ReadsGrammar ⟨lead, unescape⟩ (grammar lead raw) := by
  refine .of_exact rfl escaped ?_
  rintro _ rest ⟨point, rfl⟩
  exact ⟨[point], rfl⟩

end Shell

namespace MySql

theorem generates_escape {raw : CodePoint → Prop}
    (keeps : ∀ point : CodePoint, point.isAlphanumeric = true → raw point) (point : CodePoint) :
    (Shell.grammar backslash raw).Generates (escape point) := by
  unfold escape
  split
  next plain => exact EscapeGrammar.generates_raw (keeps point plain)
  next => exact EscapeGrammar.generates_escape ⟨_, rfl⟩

theorem readsGrammar {raw : CodePoint → Prop} (escaped : ¬raw backslash) :
    Decoder.ReadsGrammar ⟨backslash, unescape⟩ (Shell.grammar backslash raw) := by
  refine .of_exact rfl escaped ?_
  rintro _ rest ⟨letter, rfl⟩
  exact ⟨_, rfl⟩

end MySql

namespace Oracle

/-- A second quote follows the first one. -/
def grammar (raw : CodePoint → Prop) : EscapeGrammar := ⟨quote, raw, fun body => body = [quote]⟩

variable {raw : CodePoint → Prop}

theorem generates_escape (keeps : ∀ point, point ≠ quote → raw point) (point : CodePoint) :
    (grammar raw).Generates (escape point) := by
  unfold escape
  split
  next => exact EscapeGrammar.generates_escape rfl
  next different => exact EscapeGrammar.generates_raw (keeps point different)

theorem readsGrammar (escaped : ¬raw quote) :
    Decoder.ReadsGrammar ⟨quote, unescape⟩ (grammar raw) := by
  refine .of_exact rfl escaped ?_
  rintro _ rest rfl
  exact ⟨[quote], unescape_quote rest⟩

end Oracle

end Escaping
