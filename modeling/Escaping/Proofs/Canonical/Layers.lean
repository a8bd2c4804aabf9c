import Escaping.Proofs.Canonical.Stability
import Escaping.Proofs.Codec.CharacterReference
import Escaping.Proofs.Codec.OctetRun
import Escaping.Proofs.Codec.StringLiteral

/-!
Layers of the default schemes. What one of them writes consists of letters, digits and punctuation
of its own, so the others find nothing in it, and it gives back exactly what the layer inside it
wrote. From this a pass takes off the outermost layers that the order of the schemes allows, one
layer of a scheme at a time, and decoding counts the layers one by one.
-/

namespace Escaping

namespace Scheme

/-- What a default scheme writes beside letters and digits. -/
def punctuation : Scheme → List CodePoint
  | .html => [CharacterReference.ampersand, CharacterReference.numberSign,
      CharacterReference.semicolon]
  | .percent => [Percent.percent]
  | .javaScript => [StringLiteral.backslash]
  | _ => []

/-- The texts that a default scheme gives back as they were: HTML replaces illegal code points,
percent-encoding has no octets for surrogates that it would read again, and JavaScript joins
surrogates that stand next to each other. -/
def Carries : Scheme → Text → Prop
  | .html, text => ∀ point ∈ text, Html.isIllegal point = false
  | .percent, text => ∀ point ∈ text, point.isSurrogate = false
  | .javaScript, text => Utf16.Unpaired text
  | _, _ => False

variable {scheme other : Scheme} {point : CodePoint} {text : Text}

theorem eq_of_mem_defaults (member : scheme ∈ defaults) :
    scheme = .html ∨ scheme = .percent ∨ scheme = .javaScript := by
  simpa [defaults] using member

theorem mem_escape (member : scheme ∈ defaults) {each : CodePoint}
    (written : each ∈ scheme.codec.escape point) :
    each ∈ scheme.punctuation ∨ each.isAlphanumeric = true := by
  rcases eq_of_mem_defaults member with rfl | rfl | rfl
  · have reference := Html.isReferencePoint_of_mem_escape written
    rw [CharacterReference.isReferencePoint, Bool.or_eq_true, decide_eq_true_eq] at reference
    exact reference.symm
  · exact (Percent.mem_escape written).imp_left List.mem_singleton.mpr
  · exact (JavaScript.mem_escape written).imp_left List.mem_singleton.mpr

theorem mem_encode (member : scheme ∈ defaults) (written : point ∈ scheme.codec.encode [] text) :
    point ∈ scheme.punctuation ∨ point.isAlphanumeric = true := by
  rcases List.mem_flatMap.mp written with ⟨source, _, escaped⟩
  rw [Codec.encodePoint_nil] at escaped
  exact mem_escape member escaped

/-- Every code point but letters and digits becomes an escape, which is read whatever follows. -/
theorem reads_escape (member : scheme ∈ defaults) (special : point.isAlphanumeric = false) :
    ∃ decoder body, scheme.codec.decoder = some decoder
      ∧ scheme.codec.escape point = decoder.lead :: body
      ∧ ∀ rest, decoder.unescape (body ++ rest) ≠ none := by
  rcases eq_of_mem_defaults member with rfl | rfl | rfl
  · rcases Html.reads_escape special with ⟨body, written, matched⟩
    refine ⟨_, body, rfl, written, fun rest => ?_⟩
    rw [matched]
    exact Option.some_ne_none _
  · rcases OctetRun.unescape_escape Percent.percent Digits.printsHex_upperDigit point with
      ⟨body, written, matched⟩
    exact ⟨_, body, rfl, (Percent.escape_of_not_alphanumeric special).trans written, matched⟩
  · rcases JavaScript.unescape_escape special with ⟨body, written, matched⟩
    exact ⟨_, body, rfl, written, matched⟩

theorem isAlphanumeric_lead (member : scheme ∈ defaults) {lead : CodePoint}
    (leads : scheme.codec.lead = some lead) : lead.isAlphanumeric = false := by
  rcases eq_of_mem_defaults member with rfl | rfl | rfl
  all_goals
    rcases leads with ⟨⟩
    decide

/-- The punctuation of one default scheme leaves out the leads of the others. -/
theorem lead_not_mem_punctuation (member : scheme ∈ defaults) (others : other ∈ defaults)
    (different : other ≠ scheme) {lead : CodePoint} (leads : other.codec.lead = some lead) :
    lead ∉ scheme.punctuation := by
  rcases eq_of_mem_defaults member with rfl | rfl | rfl
  all_goals
    rcases eq_of_mem_defaults others with rfl | rfl | rfl
    all_goals
      rcases leads with ⟨⟩
      first
      | exact absurd rfl different
      | decide

/-- What a default scheme writes is printable ASCII. -/
theorem bounds_of_mem_encode (member : scheme ∈ defaults)
    (written : point ∈ scheme.codec.encode [] text) : 0x20 ≤ point.val ∧ point.val ≤ 0x7e := by
  rcases mem_encode member written with sign | plain
  · have signs : ∀ each ∈ scheme.punctuation, 0x20 ≤ each.val ∧ each.val ≤ 0x7e := by
      cases scheme <;> decide
    exact signs point sign
  · have bounds := CodePoint.bounds_of_alphanumeric plain
    omega

/-- Each default scheme carries what any of them writes. -/
theorem carries_encode (member : scheme ∈ defaults) (inner : other ∈ defaults) (text : Text) :
    scheme.Carries (other.codec.encode [] text) := by
  rcases eq_of_mem_defaults member with rfl | rfl | rfl
  · intro point written
    have bounds := bounds_of_mem_encode inner written
    rw [Bool.eq_false_iff, Ne, Html.isIllegal_iff]
    omega
  · intro point written
    have bounds := bounds_of_mem_encode inner written
    exact CodePoint.isSurrogate_of_lt (by omega)
  · intro high low adjacent surrogates
    have bounds := bounds_of_mem_encode inner (adjacent.subset List.mem_cons_self)
    have isHigh := surrogates.1
    simp only [CodePoint.isHighSurrogate, Bool.and_eq_true, decide_eq_true_eq] at isHigh
    omega

theorem decode_encode (carried : scheme.Carries text) :
    scheme.codec.decode (scheme.codec.encode [] text) = text := by
  cases scheme with
  | html => exact Html.decode_encode List.not_mem_nil carried
  | percent => exact Percent.decode_encode carried
  | javaScript =>
      have joined := JavaScript.decode_encode (List.not_mem_nil : StringLiteral.backslash ∉ [])
        (by simp) text
      exact joined.trans (Utf16.joinPairs_of_unpaired carried)
  | _ => exact carried.elim

/-- An escape is found in what a default scheme writes for anything but letters and digits. -/
theorem not_plain_encode (member : scheme ∈ defaults)
    (special : ∃ point ∈ text, point.isAlphanumeric = false) :
    ¬scheme.codec.Plain (scheme.codec.encode [] text) := by
  rcases special with ⟨point, inText, special⟩
  rcases List.append_of_mem inText with ⟨before, after, rfl⟩
  rcases reads_escape member special with ⟨decoder, body, decodes, written, matched⟩
  have whole : scheme.codec.encode [] (before ++ point :: after)
      = scheme.codec.encode [] before
        ++ decoder.lead :: (body ++ scheme.codec.encode [] after) := by
    rw [Codec.encode_append, Codec.encode_cons, Codec.encodePoint_nil, written]
    rfl
  rcases Option.ne_none_iff_exists'.mp (matched (scheme.codec.encode [] after)) with
    ⟨found, read⟩
  rw [← Codec.count_decodePass_eq_zero_iff, Codec.decodePass_eq_scan decodes, whole]
  exact Decoder.count_scan_ne_zero read

theorem plain_encode_of_ne (member : scheme ∈ defaults) (others : other ∈ defaults)
    (different : other ≠ scheme) (text : Text) :
    other.codec.Plain (scheme.codec.encode [] text) := by
  apply Codec.plain_of_lead_not_mem
  intro lead leads written
  rcases mem_encode member written with sign | plain
  · exact lead_not_mem_punctuation member others different leads sign
  · exact CodePoint.ne_of_alphanumeric plain (isAlphanumeric_lead others leads) rfl

theorem settled_encode_of_not_mem {order : List Scheme} (member : scheme ∈ defaults)
    (ordered : ∀ each ∈ order, each ∈ defaults) (absent : scheme ∉ order) (text : Text) :
    Settled order (scheme.codec.encode [] text) := by
  intro each inOrder
  apply plain_encode_of_ne member (ordered each inOrder)
  rintro rfl
  exact absent inOrder

/-- The schemes before it leave alone what a scheme wrote, so that it decodes this in its turn. -/
theorem run_encode {order : List Scheme} (ordered : ∀ each ∈ order, each ∈ defaults)
    (turn : scheme ∈ order) (special : ∃ point ∈ text, point.isAlphanumeric = false) :
    ∃ later, later ⊆ order
      ∧ Pass.run order (scheme.codec.encode [] text)
        = ⟨(Pass.run later (scheme.codec.decode (scheme.codec.encode [] text))).text,
          scheme :: (Pass.run later (scheme.codec.decode (scheme.codec.encode [] text))).matched⟩
    := by
  induction order with
  | nil => cases turn
  | cons head rest induction =>
      by_cases first : head = scheme
      · subst first
        have matching := not_plain_encode (ordered head turn) special
        exact ⟨rest, List.subset_cons_self head rest, Pass.run_cons_of_not_plain matching rest⟩
      · have member := (List.mem_cons.mp turn).resolve_left (Ne.symm first)
        have headKnown := ordered head List.mem_cons_self
        have plain := plain_encode_of_ne (ordered scheme turn) headKnown first text
        rcases induction (fun each inRest => ordered each (List.mem_cons_of_mem head inRest)) member
          with ⟨later, subset, ran⟩
        refine ⟨later, fun each inLater => List.mem_cons_of_mem head (subset inLater), ?_⟩
        rw [Pass.run_cons_of_plain plain, ran]

theorem exists_special_encode (member : scheme ∈ defaults)
    (special : ∃ point ∈ text, point.isAlphanumeric = false) :
    ∃ point ∈ scheme.codec.encode [] text, point.isAlphanumeric = false := by
  rcases special with ⟨point, inText, special⟩
  rcases reads_escape member special with ⟨decoder, body, decodes, written, _⟩
  refine ⟨decoder.lead, ?_, isAlphanumeric_lead member (congrArg (Option.map _) decodes)⟩
  apply List.mem_flatMap.mpr
  refine ⟨point, inText, ?_⟩
  rw [Codec.encodePoint_nil, written]
  exact List.mem_cons_self

end Scheme

/-- A text under layers of encoding, the first of them outermost. -/
def encodeLayers : List Scheme → Text → Text
  | [], text => text
  | layer :: inner, text => layer.codec.encode [] (encodeLayers inner text)

section Layers

variable {layers : List Scheme} {text : Text}

theorem exists_special_encodeLayers (known : ∀ layer ∈ layers, layer ∈ Scheme.defaults)
    (special : ∃ point ∈ text, point.isAlphanumeric = false) :
    ∃ point ∈ encodeLayers layers text, point.isAlphanumeric = false := by
  induction layers with
  | nil => exact special
  | cons layer inner induction =>
      have following := induction fun each member => known each (List.mem_cons_of_mem layer member)
      exact Scheme.exists_special_encode (known layer List.mem_cons_self) following

/-- The innermost layer, if there is one, carries the text. -/
def InnermostCarries (layers : List Scheme) (text : Text) : Prop :=
  ∀ innermost ∈ layers.getLast?, innermost.Carries text

theorem InnermostCarries.tail {layer : Scheme} {inner : List Scheme}
    (carried : InnermostCarries (layer :: inner) text) : InnermostCarries inner text := by
  cases inner with
  | nil =>
      intro innermost member
      cases member
  | cons next others =>
      intro innermost member
      apply carried innermost
      rw [List.getLast?_cons_cons]
      exact member

theorem InnermostCarries.of_append {outer inner : List Scheme}
    (carried : InnermostCarries (outer ++ inner) text) : InnermostCarries inner text := by
  induction outer with
  | nil => exact carried
  | cons layer others induction => exact induction carried.tail

theorem carries_encodeLayers {layer : Scheme} {inner : List Scheme}
    (known : ∀ each ∈ layer :: inner, each ∈ Scheme.defaults)
    (carried : InnermostCarries (layer :: inner) text) :
    layer.Carries (encodeLayers inner text) := by
  cases inner with
  | nil => exact carried layer rfl
  | cons next others =>
      exact Scheme.carries_encode (known layer List.mem_cons_self) (known next (by simp)) _

/-- The layers come off in a pass from the outside, as far as their order is that of the schemes. -/
theorem Pass.run_encodeLayers (order : List Scheme)
    (ordered : ∀ scheme ∈ order, scheme ∈ Scheme.defaults)
    (known : ∀ layer ∈ layers, layer ∈ Scheme.defaults) (settled : Settled Scheme.defaults text)
    (special : ∃ point ∈ text, point.isAlphanumeric = false)
    (carried : InnermostCarries layers text) :
    ∃ removed remaining, layers = removed ++ remaining
      ∧ Pass.run order (encodeLayers layers text) = ⟨encodeLayers remaining text, removed⟩
      ∧ (∀ outermost ∈ layers.head?, outermost ∈ order → removed ≠ []) := by
  induction layers generalizing order with
  | nil =>
      have nothing : Settled order text := fun each member => settled each (ordered each member)
      exact ⟨[], [], rfl, Pass.run_of_settled nothing, by simp⟩
  | cons layer inner induction =>
      have outer := known layer List.mem_cons_self
      have within : ∀ each ∈ inner, each ∈ Scheme.defaults := fun each member =>
        known each (List.mem_cons_of_mem layer member)
      by_cases turn : layer ∈ order
      · rcases Scheme.run_encode ordered turn (exists_special_encodeLayers within special) with
          ⟨later, subset, ran⟩
        rw [Scheme.decode_encode (carries_encodeLayers known carried)] at ran
        rcases induction later (fun each member => ordered each (subset member)) within carried.tail
          with ⟨removed, remaining, split, following, _⟩
        rw [following] at ran
        exact ⟨layer :: removed, remaining, congrArg (layer :: ·) split, ran, by simp⟩
      · have nothing : Settled order (encodeLayers (layer :: inner) text) :=
          Scheme.settled_encode_of_not_mem outer ordered turn _
        refine ⟨[], layer :: inner, rfl, Pass.run_of_settled nothing, ?_⟩
        intro outermost head member
        cases head
        exact absurd member turn

/-- Passes take the layers off one by one, each in its turn, until the text is left. -/
theorem Decoding.passes_encodeLayers {limit : Nat} (fits : layers.length ≤ limit)
    (known : ∀ layer ∈ layers, layer ∈ Scheme.defaults) (settled : Settled Scheme.defaults text)
    (special : ∃ point ∈ text, point.isAlphanumeric = false)
    (carried : InnermostCarries layers text) :
    Decoding.matched Scheme.defaults limit (encodeLayers layers text) = layers
      ∧ (Decoding.passes Scheme.defaults limit (encodeLayers layers text)).length ≤ layers.length
      ∧ Pass.textAfter Scheme.defaults
          (Decoding.passes Scheme.defaults limit (encodeLayers layers text)).length
          (encodeLayers layers text) = text := by
  induction limit generalizing layers with
  | zero =>
      have empty : layers = [] := List.length_eq_zero_iff.mp (Nat.le_zero.mp fits)
      subst empty
      exact ⟨rfl, Nat.le_refl 0, rfl⟩
  | succ limit induction =>
      cases layers with
      | nil =>
          rw [encodeLayers, Decoding.passes_of_settled settled, Decoding.matched_of_settled settled]
          exact ⟨rfl, Nat.le_refl 0, rfl⟩
      | cons layer inner =>
          rcases Pass.run_encodeLayers Scheme.defaults (fun _ member => member) known settled
            special carried with ⟨removed, remaining, split, ran, progress⟩
          have progressed : removed ≠ [] := progress layer rfl (known layer List.mem_cons_self)
          have matching : ¬Settled Scheme.defaults (encodeLayers (layer :: inner) text) := by
            intro nothing
            rw [← Pass.matched_run_eq_nil_iff, ran] at nothing
            exact progressed nothing
          have fewer : remaining.length ≤ limit := by
            have total := congrArg List.length split
            have positive := List.length_pos_iff.mpr progressed
            rw [List.length_append] at total
            omega
          have kept : InnermostCarries remaining text := by
            rw [split] at carried
            exact carried.of_append
          rcases induction fewer (fun each member => known each (by simp [split, member])) kept with
            ⟨matched, count, decoded⟩
          rw [Decoding.passes_of_not_settled matching, Decoding.matched_succ, ran]
          dsimp only
          refine ⟨?_, ?_, ?_⟩
          · rw [matched, split]
          · have positive := List.length_pos_iff.mpr progressed
            rw [List.length_cons, split, List.length_append]
            omega
          · rw [List.length_cons, Pass.textAfter_succ, ran]
            exact decoded

/-- Decoding counts the layers of the default schemes one by one and in the order in which they
stand, and a single layer of one of them raises no suspicion. -/
theorem Decoding.all_encodeLayers (few : layers.length ≤ 5)
    (known : ∀ layer ∈ layers, layer ∈ Scheme.defaults) (settled : Settled Scheme.defaults text)
    (special : ∃ point ∈ text, point.isAlphanumeric = false)
    (carried : InnermostCarries layers text) :
    (Decoding.all Scheme.defaults (encodeLayers layers text)).text = text
      ∧ (Decoding.all Scheme.defaults (encodeLayers layers text)).counts
        = layers.eraseDups.map (fun layer => (layer, layers.count layer))
      ∧ (Decoding.all Scheme.defaults (encodeLayers layers text)).fired = layers.eraseDups
      ∧ (layers.length ≤ 4 →
        (Decoding.all Scheme.defaults (encodeLayers layers text)).exhausted = false)
      ∧ (layers.length = 1 → ∀ (sink : Sink) (policy : Policy),
        (Canonicalizer.standard sink).canonicalize policy (.text (encodeLayers layers text))
          = ⟨.ok (.text text), []⟩) := by
  rcases passes_encodeLayers few known settled special carried with ⟨matched, length, after⟩
  have decoded : (Decoding.all Scheme.defaults (encodeLayers layers text)).text = text := by
    rw [Decoding.text_all]
    exact after
  have counts := Decoding.counts_all Scheme.defaults (encodeLayers layers text)
  have fired := Decoding.fired_all Scheme.defaults (encodeLayers layers text)
  have complete : layers.length ≤ 4 →
      (Decoding.all Scheme.defaults (encodeLayers layers text)).exhausted = false := by
    intro fewer
    rw [Bool.eq_false_iff, Ne, Decoding.exhausted_all_iff]
    exact Nat.ne_of_lt (Nat.lt_succ_of_le (Nat.le_trans length fewer))
  have limit : Decoding.maxPasses = 5 := rfl
  rw [limit, matched] at counts fired
  refine ⟨decoded, counts, fired, complete, ?_⟩
  intro single sink policy
  rcases List.length_eq_one_iff.mp single with ⟨layer, rfl⟩
  have plain : (Decoding.all Scheme.defaults (encodeLayers [layer] text)).conditions = [] := by
    apply List.eq_nil_iff_forall_not_mem.mpr
    intro condition member
    cases condition with
    | multiple =>
        rw [Decoding.multiple_mem_conditions_iff, complete (by simp), counts] at member
        simp at member
    | mixed =>
        rw [Decoding.mixed_mem_conditions_iff, fired, List.eraseDups_cons] at member
        simp at member
  have canonical :=
    Canonicalizer.canonicalizeText_of_conditions_nil (.standard sink) policy plain
  rw [Canonicalizer.canonicalize_text, canonical, Canonicalizer.standard, decoded]
  rfl

theorem Decoding.all_encodeLayers_percentAroundHtml :
    (Decoding.all Scheme.defaults
        (encodeLayers [.percent, .html, .percent] (Text.ofString "<b>"))).text = Text.ofString "<b>"
      ∧ (Decoding.all Scheme.defaults
        (encodeLayers [.percent, .html, .percent] (Text.ofString "<b>"))).counts
        = [(.percent, 2), (.html, 1)]
      ∧ (Decoding.all Scheme.defaults
        (encodeLayers [.percent, .html, .percent] (Text.ofString "<b>"))).exhausted = false := by
  have settled : Settled Scheme.defaults (Text.ofString "<b>") := by
    intro scheme member
    apply Codec.plain_of_lead_not_mem
    intro lead leads
    rcases Scheme.eq_of_mem_defaults member with rfl | rfl | rfl
    all_goals
      rcases leads with ⟨⟩
      decide
  have carried : InnermostCarries [.percent, .html, .percent] (Text.ofString "<b>") := by
    have scalar : ∀ point ∈ Text.ofString "<b>", point.isSurrogate = false := by decide
    rintro innermost ⟨⟩
    exact scalar
  have special : ∃ point ∈ Text.ofString "<b>", point.isAlphanumeric = false :=
    ⟨.ofChar '<', by decide, by decide⟩
  rcases all_encodeLayers (by decide) (by decide) settled special carried with
    ⟨decoded, counts, _, complete, _⟩
  exact ⟨decoded, counts.trans (by decide), complete (by decide)⟩

end Layers

end Escaping
