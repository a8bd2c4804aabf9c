import Escaping.Proofs.Codec.Grammar
import Escaping.Proofs.Codec.Scanning

/-!
The escapes that a scan finds. It goes from left to right, takes an escape where the codec finds one
and a single code point elsewhere, so that no two escapes overlap. Where a decoder reads what a
grammar generates, only raw code points stay outside the escapes.
-/

namespace Escaping

/-- The part of a text from a position up to another one. -/
structure Span where
  start : Nat
  stop : Nat
deriving DecidableEq, Repr

def Span.Covers (span : Span) (position : Nat) : Prop :=
  span.start ≤ position ∧ position < span.stop

namespace Codec

variable {codec : Codec} {decoder : Decoder} {text : Text} {position : Nat}

theorem decodeAt_eq_some_iff (decodes : codec.decoder = some decoder) {found : Found} :
    codec.decodeAt text position = some found
      ↔ ∃ tail unescaped, text.drop position = decoder.lead :: tail
        ∧ decoder.unescape tail = some unescaped
        ∧ found = ⟨unescaped.text, position + 1 + unescaped.taken⟩ := by
  rw [decodeAt_eq_findAt decodes, Decoder.findAt_eq_some_iff]

theorem lt_stop_of_decodeAt {found : Found} (matched : codec.decodeAt text position = some found) :
    position < found.stop := by
  cases decodes : codec.decoder with
  | none => simp [decodeAt, decodes] at matched
  | some decoder =>
      rw [decodeAt_eq_findAt decodes] at matched
      exact Decoder.lt_stop_of_findAt matched

/-- The escapes that a scan finds from a position on. Behind an escape it goes on with what follows,
and elsewhere with the next code point. -/
def escapesFrom (codec : Codec) (text : Text) (position : Nat) : List Span :=
  if position < text.length then
    match matched : codec.decodeAt text position with
    | some found => ⟨position, found.stop⟩ :: codec.escapesFrom text found.stop
    | none => codec.escapesFrom text (position + 1)
  else []
termination_by text.length - position
decreasing_by
  · have behind := lt_stop_of_decodeAt matched
    omega
  · omega

def escapes (codec : Codec) (text : Text) : List Span := codec.escapesFrom text 0

theorem le_start_of_mem_escapesFrom {span : Span}
    (member : span ∈ codec.escapesFrom text position) : position ≤ span.start := by
  fun_induction escapesFrom codec text position with
  | case1 position within found matched induction =>
      rcases List.mem_cons.mp member with rfl | later
      · exact Nat.le_refl _
      · exact Nat.le_trans (Nat.le_of_lt (lt_stop_of_decodeAt matched)) (induction later)
  | case2 position within malformed induction =>
      exact Nat.le_trans (Nat.le_succ position) (induction member)
  | case3 => cases member

/-- No position belongs to two escapes. -/
theorem eq_of_covers {left right : Span} {place : Nat}
    (inLeft : left ∈ codec.escapesFrom text position)
    (inRight : right ∈ codec.escapesFrom text position)
    (leftCovers : left.Covers place) (rightCovers : right.Covers place) : left = right := by
  fun_induction escapesFrom codec text position with
  | case1 position within found matched induction =>
      rcases List.mem_cons.mp inLeft with rfl | leftLater
      · rcases List.mem_cons.mp inRight with rfl | rightLater
        · rfl
        · have behind := le_start_of_mem_escapesFrom rightLater
          exact absurd (Nat.lt_of_lt_of_le leftCovers.2 behind) (Nat.not_lt.mpr rightCovers.1)
      · rcases List.mem_cons.mp inRight with rfl | rightLater
        · have behind := le_start_of_mem_escapesFrom leftLater
          exact absurd (Nat.lt_of_lt_of_le rightCovers.2 behind) (Nat.not_lt.mpr leftCovers.1)
        · exact induction leftLater rightLater
  | case2 position within malformed induction => exact induction inLeft inRight
  | case3 => cases inLeft

end Codec

/-- A decoder reads what a grammar generates. No lead stands raw, and every escape is read up to a
place from which the text is generated again; it may be read together with escapes after it. -/
structure Decoder.ReadsGrammar (decoder : Decoder) (grammar : EscapeGrammar) : Prop where
  lead : grammar.lead = decoder.lead
  escaped : ¬grammar.raw grammar.lead
  reads : ∀ {body rest : Text}, grammar.body body → grammar.Generates rest →
    ∃ found, decoder.unescape (body ++ rest) = some found
      ∧ grammar.Generates ((body ++ rest).drop found.taken)

namespace Decoder.ReadsGrammar

variable {decoder : Decoder} {grammar : EscapeGrammar} {codec : Codec} {text : Text}

/-- A generated text that starts with the lead starts with an escape. -/
theorem unescape_tail (readsGrammar : decoder.ReadsGrammar grammar) {tail : Text}
    (generates : grammar.Generates (decoder.lead :: tail)) :
    ∃ found, decoder.unescape tail = some found ∧ grammar.Generates (tail.drop found.taken) := by
  rcases generates.uncons with ⟨stands, _⟩ | ⟨body, rest, _, rfl, written, following⟩
  · exact absurd (readsGrammar.lead ▸ stands) readsGrammar.escaped
  · exact readsGrammar.reads written following

/-- What the scan leaves outside the escapes stands raw. -/
theorem raw_of_uncovered (readsGrammar : decoder.ReadsGrammar grammar)
    (decodes : codec.decoder = some decoder) {position place : Nat} {point : CodePoint}
    (generates : grammar.Generates (text.drop position)) (behind : position ≤ place)
    (here : text[place]? = some point)
    (uncovered : ∀ span ∈ codec.escapesFrom text position, ¬span.Covers place) :
    grammar.raw point := by
  fun_induction Codec.escapesFrom codec text position with
  | case1 position within found matched induction =>
      rcases (Codec.decodeAt_eq_some_iff decodes).mp matched with
        ⟨tail, unescaped, opening, read, rfl⟩
      rw [opening] at generates
      rcases readsGrammar.unescape_tail generates with ⟨_, again, following⟩
      cases read.symm.trans again
      have remaining := Decoder.drop_behind opening unescaped.taken
      have outside := uncovered _ List.mem_cons_self
      refine induction (remaining ▸ following) ?_ fun span later =>
        uncovered span (List.mem_cons_of_mem _ later)
      unfold Span.Covers at outside
      dsimp only at outside ⊢
      omega
  | case2 position within malformed induction =>
      have opening := List.drop_eq_getElem_cons within
      rw [opening] at generates
      rcases generates.uncons with ⟨stands, following⟩ | ⟨body, rest, lead, equal, _⟩
      · rcases Nat.eq_or_lt_of_le behind with rfl | later
        · rw [List.getElem?_eq_getElem within] at here
          exact Option.some.inj here ▸ stands
        · exact induction following later uncovered
      · rw [lead, readsGrammar.lead] at generates opening
        rcases readsGrammar.unescape_tail generates with ⟨unescaped, read, _⟩
        have matched := (Codec.decodeAt_eq_some_iff decodes).mpr ⟨_, _, opening, read, rfl⟩
        rw [malformed] at matched
        cases matched
  | case3 position beyond =>
      rw [List.getElem?_eq_none (by omega)] at here
      cases here

theorem raw_outside_escapes (readsGrammar : decoder.ReadsGrammar grammar)
    (decodes : codec.decoder = some decoder) (generates : grammar.Generates text) {place : Nat}
    {point : CodePoint} (here : text[place]? = some point)
    (uncovered : ∀ span ∈ codec.escapes text, ¬span.Covers place) : grammar.raw point := by
  have whole : grammar.Generates (text.drop 0) := generates
  exact readsGrammar.raw_of_uncovered decodes whole (Nat.zero_le place) here uncovered

end Decoder.ReadsGrammar

end Escaping
