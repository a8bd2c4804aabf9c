import Escaping.Proofs.Codec.Generated
import Escaping.Scheme

/-!
Metacharacters of queries, names, literals and shells. A scan of an encoded text from left to right
leaves only harmless code points outside the escapes. Every lead belongs to one escape, and so does
every sign that could end what the text stands in. Oracle, whose lead is the quote itself, writes
quotes in runs of even length only.
-/

namespace Escaping

namespace Oracle

variable {raw : CodePoint → Prop}

/-- A text may be cut where no quote comes before the cut: no escape goes across it. -/
theorem generates_of_append {before rest : Text} (starts : ¬[quote] <:+ before)
    (generates : (grammar raw).Generates (before ++ rest)) : (grammar raw).Generates rest := by
  generalize whole : before ++ rest = text at generates
  induction generates generalizing before with
  | nil =>
      rw [(List.append_eq_nil_iff.mp whole).2]
      exact .nil
  | @raw point tail stands following induction =>
      cases before with
      | nil =>
          rw [List.nil_append] at whole
          rw [whole]
          exact .raw stands following
      | cons head others =>
          have later : ¬[quote] <:+ others := fun suffix =>
            starts (suffix.trans (List.suffix_cons head others))
          exact induction later (List.cons.inj whole).2
  | @escape body tail written following induction =>
      cases written
      match before with
      | [] =>
          rw [List.nil_append] at whole
          rw [whole]
          exact .escape rfl following
      | [head] =>
          have equal : head = quote := (List.cons.inj whole).1
          exact absurd (equal ▸ List.suffix_refl _) starts
      | first :: second :: others =>
          have later : ¬[quote] <:+ others := fun suffix =>
            starts (suffix.trans (List.suffix_append [first, second] others))
          exact induction later (List.cons.inj (List.cons.inj whole).2).2

/-- Quotes are taken two at a time, so a run of them that ends is even. -/
theorem even_of_generates_replicate (escaped : ¬raw quote) {after : Text}
    (ends : ¬[quote] <+: after) :
    ∀ count, (grammar raw).Generates (List.replicate count quote ++ after) → count % 2 = 0
  | 0, _ => rfl
  | 1, generates => by
      rcases generates.uncons with ⟨stands, _⟩ | ⟨body, rest, _, equal, written, _⟩
      · exact absurd stands escaped
      · cases written
        exact absurd ⟨rest, equal.symm⟩ ends
  | count + 2, generates => by
      rcases generates.uncons with ⟨stands, _⟩ | ⟨body, rest, _, equal, written, following⟩
      · exact absurd stands escaped
      · cases written
        have remaining : List.replicate count quote ++ after = rest := (List.cons.inj equal).2
        have even := even_of_generates_replicate escaped ends count (remaining ▸ following)
        omega

end Oracle

namespace Scheme

/-- The schemes of queries, names, literals and shells. -/
def queries : List Scheme :=
  [.ldapFilter, .ldapName, .json, .posixShell, .windowsShell, .mySql, .oracle]

/-- The code points that a scheme leaves raw beside the immune ones. -/
def leavesRaw (scheme : Scheme) (point : CodePoint) : Bool :=
  match scheme with
  | .ldapFilter =>
      ((0x01 ≤ point.val ∧ point.val ≤ 0x27) ∨ (0x2b ≤ point.val ∧ point.val ≤ 0x5b)
        ∨ (0x5d ≤ point.val ∧ point.val ≤ 0x7f)) ∧ point.val ≠ 0x2f
  | .ldapName =>
      ((0x01 ≤ point.val ∧ point.val ≤ 0x21) ∨ (0x23 ≤ point.val ∧ point.val ≤ 0x2a)
        ∨ (0x2d ≤ point.val ∧ point.val ≤ 0x3a) ∨ point.val = 0x3d
        ∨ (0x3f ≤ point.val ∧ point.val ≤ 0x5b) ∨ (0x5d ≤ point.val ∧ point.val ≤ 0x7f))
        ∧ point.val ≠ 0x2f
  | .json =>
      0x20 ≤ point.val ∧ point.val ≠ 0x22 ∧ point.val ≠ 0x5c
        ∧ ¬(0xd800 ≤ point.val ∧ point.val ≤ 0xdfff)
  | .posixShell | .windowsShell | .mySql => point.isAlphanumeric
  | .oracle => point.val ≠ 0x27
  | _ => false

/-- The signs that end a literal, a value of a filter or of a name, or a word. -/
def terminators : Scheme → List CodePoint
  | .ldapFilter => ['(', ')', '*', .ofNat 0x0]
  | .ldapName => [',', '+', ';', '<', '>', .ofNat 0x22, .ofNat 0x0]
  | .json => [.ofNat 0x22]
  | .mySql => [.ofNat 0x22, .ofNat 0x27]
  | .oracle => [.ofNat 0x27]
  | .posixShell | .windowsShell =>
      [' ', ';', '&', '|', '<', '>', '(', ')', '$', .ofNat 0xa, .ofNat 0x22, .ofNat 0x27]
  | _ => []

variable {scheme : Scheme} {immune : List CodePoint}

theorem isFilterSafe_eq_leavesRaw (point : CodePoint) :
    Ldap.isFilterSafe point = ldapFilter.leavesRaw point := by
  rw [Bool.eq_iff_iff]
  simp [Ldap.isFilterSafe, Ldap.inRanges, leavesRaw, and_comm]

theorem isNameSafe_eq_leavesRaw (point : CodePoint) :
    Ldap.isNameSafe point = ldapName.leavesRaw point := by
  rw [Bool.eq_iff_iff]
  simp [Ldap.isNameSafe, Ldap.inRanges, leavesRaw, and_comm]
  omega

theorem leavesRaw_of_isPlain {point : CodePoint} (plain : Json.isPlain point) :
    json.leavesRaw point = true := by
  rcases plain with ⟨noControl, noQuote, noBackslash, scalar⟩
  have quote : point.val ≠ 0x22 := fun equal => noQuote (CodePoint.ext equal)
  have backslash : point.val ≠ 0x5c := fun equal => noBackslash (CodePoint.ext equal)
  simp only [CodePoint.isSurrogate, Bool.and_eq_false_iff, decide_eq_false_iff_not] at scalar
  simp only [leavesRaw, decide_eq_true_eq]
  omega

theorem leavesRaw_of_ne_quote {point : CodePoint} (different : point ≠ Oracle.quote) :
    oracle.leavesRaw point = true := by
  have number : point.val ≠ 0x27 := fun equal => different (CodePoint.ext equal)
  simpa [leavesRaw] using number

/-- What stands raw in an encoded text: what the scheme leaves so, and what is immune. -/
def Raw (scheme : Scheme) (immune : List CodePoint) (point : CodePoint) : Prop :=
  scheme.leavesRaw point = true ∨ point ∈ immune

/-- Every scheme for queries writes a grammar that it reads. -/
theorem exists_grammar_of_queries (member : scheme ∈ queries)
    (escaped : ∀ lead, scheme.codec.lead = some lead → lead ∉ immune) :
    ∃ decoder grammar, scheme.codec.decoder = some decoder
      ∧ grammar.raw = scheme.Raw immune
      ∧ decoder.ReadsGrammar grammar
      ∧ ∀ point, grammar.Generates (scheme.codec.escape point) := by
  have notRaw : ∀ lead, scheme.codec.lead = some lead → scheme.leavesRaw lead = false →
      ¬scheme.Raw immune lead := by
    rintro lead leads special (raw | immunity)
    · rw [special] at raw
      cases raw
    · exact escaped lead leads immunity
  simp only [queries, List.mem_cons, List.not_mem_nil, or_false] at member
  rcases member with rfl | rfl | rfl | rfl | rfl | rfl | rfl
  · exact ⟨_, _, rfl, rfl, OctetRun.readsGrammar (notRaw _ rfl (by decide)),
      Ldap.generates_escape fun point safe => .inl (isFilterSafe_eq_leavesRaw point ▸ safe)⟩
  · exact ⟨_, _, rfl, rfl, OctetRun.readsGrammar (notRaw _ rfl (by decide)),
      Ldap.generates_escape fun point safe => .inl (isNameSafe_eq_leavesRaw point ▸ safe)⟩
  · exact ⟨_, _, rfl, rfl, Json.readsGrammar (notRaw _ rfl (by decide)),
      Json.generates_escape fun point plain => .inl (leavesRaw_of_isPlain plain)⟩
  · exact ⟨_, _, rfl, rfl, Shell.readsGrammar (notRaw _ rfl (by decide)),
      Shell.generates_escape fun point plain => .inl plain⟩
  · exact ⟨_, _, rfl, rfl, Shell.readsGrammar (notRaw _ rfl (by decide)),
      Shell.generates_escape fun point plain => .inl plain⟩
  · exact ⟨_, _, rfl, rfl, MySql.readsGrammar (notRaw _ rfl (by decide)),
      MySql.generates_escape fun point plain => .inl plain⟩
  · exact ⟨_, _, rfl, rfl, Oracle.readsGrammar (notRaw _ rfl (by decide)),
      Oracle.generates_escape fun point different => .inl (leavesRaw_of_ne_quote different)⟩

/-- A scan of the text finds its metacharacters inside escapes only. -/
structure Guarded (scheme : Scheme) (immune : List CodePoint) (encoded : Text) : Prop where
  outside : ∀ position point, encoded[position]? = some point →
    (∀ span ∈ scheme.codec.escapes encoded, ¬span.Covers position) → scheme.Raw immune point
  lead : ∀ lead, scheme.codec.lead = some lead → ∀ position, encoded[position]? = some lead →
    ∃ span ∈ scheme.codec.escapes encoded, span.Covers position
      ∧ ∀ other ∈ scheme.codec.escapes encoded, other.Covers position → other = span
  terminator : ∀ position point, encoded[position]? = some point → point ∈ scheme.terminators →
    point ∉ immune → ∃ span ∈ scheme.codec.escapes encoded, span.Covers position
  quotes : scheme = .oracle → ∀ before count after,
    encoded = before ++ (List.replicate count Oracle.quote ++ after) →
    ¬[Oracle.quote] <:+ before → ¬[Oracle.quote] <+: after → count % 2 = 0

/-- A sign that may not stand raw lies inside an escape. -/
theorem exists_covers_of_not_raw {encoded : Text}
    (outside : ∀ position point, encoded[position]? = some point →
      (∀ span ∈ scheme.codec.escapes encoded, ¬span.Covers position) → scheme.Raw immune point)
    {position : Nat} {point : CodePoint} (here : encoded[position]? = some point)
    (notRaw : ¬scheme.Raw immune point) :
    ∃ span ∈ scheme.codec.escapes encoded, span.Covers position := by
  by_cases covered : ∃ span ∈ scheme.codec.escapes encoded, span.Covers position
  · exact covered
  · exact absurd
      (outside position point here fun span member covers => covered ⟨span, member, covers⟩) notRaw

theorem not_raw_of_not_leavesRaw {point : CodePoint} (special : scheme.leavesRaw point = false)
    (notImmune : point ∉ immune) : ¬scheme.Raw immune point := by
  rintro (raw | immunity)
  · rw [special] at raw
    cases raw
  · exact notImmune immunity

/-- Whatever the text, no metacharacter of an encoded one stands outside the escapes. -/
theorem guarded_encode (member : scheme ∈ queries) {immune : List CodePoint}
    (escaped : ∀ lead, scheme.codec.lead = some lead → lead ∉ immune) (text : Text) :
    scheme.Guarded immune (scheme.codec.encode immune text) := by
  rcases exists_grammar_of_queries member escaped with
    ⟨decoder, grammar, decodes, raw, readsGrammar, written⟩
  have kept : ∀ point ∈ immune, scheme.Raw immune point := fun point immunity => .inr immunity
  have generates := Codec.generates_encode (raw ▸ kept) written text
  have outside : ∀ position point, (scheme.codec.encode immune text)[position]? = some point →
      (∀ span ∈ scheme.codec.escapes (scheme.codec.encode immune text), ¬span.Covers position) →
      scheme.Raw immune point := by
    intro position point here uncovered
    rw [← raw]
    exact readsGrammar.raw_outside_escapes decodes generates here uncovered
  refine ⟨outside, ?_, ?_, ?_⟩
  · intro lead leads position here
    have same : lead = grammar.lead := by
      rw [Codec.lead, decodes] at leads
      exact (Option.some.inj leads).symm.trans readsGrammar.lead.symm
    have notRaw : ¬scheme.Raw immune lead := raw ▸ same ▸ readsGrammar.escaped
    rcases exists_covers_of_not_raw outside here notRaw with ⟨span, inside, covers⟩
    exact ⟨span, inside, covers, fun other found again =>
      Codec.eq_of_covers found inside again covers⟩
  · intro position point here terminates notImmune
    have special : ∀ each ∈ queries, ∀ sign ∈ each.terminators, each.leavesRaw sign = false := by
      decide
    exact exists_covers_of_not_raw outside here
      (not_raw_of_not_leavesRaw (special scheme member point terminates) notImmune)
  · rintro rfl before count after whole starts ends
    have quoteEscaped : ¬oracle.Raw immune Oracle.quote :=
      not_raw_of_not_leavesRaw (by decide) (escaped Oracle.quote rfl)
    have quoted :
        (Oracle.grammar (oracle.Raw immune)).Generates (oracle.codec.encode immune text) :=
      Codec.generates_encode kept
        (Oracle.generates_escape fun point different => .inl (leavesRaw_of_ne_quote different)) text
    rw [whole] at quoted
    exact Oracle.even_of_generates_replicate quoteEscaped ends count
      (Oracle.generates_of_append starts quoted)

/-- A backslash before a quote does not free the quote: each gets an escape of its own. -/
theorem guarded_encode_backslashBeforeQuote :
    (∀ lead, mySql.codec.lead = some lead → lead ∉ ([' '] : List CodePoint))
    ∧ mySql.codec.encode [' '] (Text.ofString "\\' or")
      = Text.ofString "\\\\\\' or"
    ∧ mySql.codec.escapes (Text.ofString "\\\\\\' or") = [⟨0, 2⟩, ⟨2, 4⟩]
    ∧ mySql.Guarded [' '] (Text.ofString "\\\\\\' or")
    ∧ oracle.Guarded [' '] (Text.ofString "''''''b") := by
  have escaped : ∀ lead, mySql.codec.lead = some lead → lead ∉ ([' '] : List CodePoint) := by
    rintro _ ⟨⟩
    decide
  have quoteEscaped : ∀ lead, oracle.codec.lead = some lead → lead ∉ ([' '] : List CodePoint) := by
    rintro _ ⟨⟩
    decide
  have literal : mySql.codec.encode [' '] (Text.ofString "\\' or")
      = Text.ofString "\\\\\\' or" := by decide +kernel
  have quotes : oracle.codec.encode [' '] (Text.ofString "'''b") = Text.ofString "''''''b" := by
    decide +kernel
  refine ⟨escaped, literal, by decide +kernel, ?_, ?_⟩
  · exact literal ▸ guarded_encode (by decide) escaped _
  · exact quotes ▸ guarded_encode (by decide) quoteEscaped _

end Scheme

end Escaping
