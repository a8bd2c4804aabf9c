import Escaping.Codec.Basic

/-!
The grammar of encoded text. What an encoder writes is a sequence of code points that stand raw and
of escapes, each of them a lead with its body. So every position of the text holds a raw code point
or lies inside an escape, and a lead is where an escape starts.
-/

namespace Escaping

/-- A sign that escapes start with, the code points that may stand raw, and what may follow the
lead as the body of an escape. -/
structure EscapeGrammar where
  lead : CodePoint
  raw : CodePoint → Prop
  body : Text → Prop

namespace EscapeGrammar

inductive Generates (grammar : EscapeGrammar) : Text → Prop
  | nil : Generates grammar []
  | raw {point : CodePoint} {rest : Text} (stands : grammar.raw point)
      (following : Generates grammar rest) : Generates grammar (point :: rest)
  | escape {body rest : Text} (written : grammar.body body)
      (following : Generates grammar rest) : Generates grammar (grammar.lead :: (body ++ rest))

/-- An escape of the grammar stands in a text at a position. -/
structure StandsAt (grammar : EscapeGrammar) (text : Text) (start : Nat) (body : Text) : Prop where
  written : grammar.body body
  held : grammar.lead :: body <+: text.drop start

variable {grammar : EscapeGrammar} {text rest body : Text}

theorem generates_raw {point : CodePoint} (stands : grammar.raw point) :
    grammar.Generates [point] :=
  .raw stands .nil

theorem generates_escape (written : grammar.body body) :
    grammar.Generates (grammar.lead :: body) := by
  have whole := Generates.escape written .nil
  rwa [List.append_nil] at whole

theorem Generates.uncons {head : CodePoint} {tail : Text}
    (generates : grammar.Generates (head :: tail)) :
    (grammar.raw head ∧ grammar.Generates tail)
      ∨ ∃ body rest, head = grammar.lead ∧ tail = body ++ rest
        ∧ grammar.body body ∧ grammar.Generates rest := by
  cases generates with
  | raw stands following => exact .inl ⟨stands, following⟩
  | escape written following => exact .inr ⟨_, _, rfl, rfl, written, following⟩

theorem Generates.append (left : grammar.Generates text) (right : grammar.Generates rest) :
    grammar.Generates (text ++ rest) := by
  induction left with
  | nil => exact right
  | raw stands _ induction => exact .raw stands induction
  | escape written _ induction =>
      rw [List.cons_append, List.append_assoc]
      exact .escape written induction

theorem generates_flatMap {Item : Type} {items : List Item} {write : Item → Text}
    (each : ∀ item ∈ items, grammar.Generates (write item)) :
    grammar.Generates (items.flatMap write) := by
  induction items with
  | nil => exact .nil
  | cons head tail induction =>
      rw [List.flatMap_cons]
      exact (each head List.mem_cons_self).append
        (induction fun item member => each item (List.mem_cons_of_mem head member))

/-- What a text starts with is what it starts with behind something else. -/
theorem StandsAt.append_left (before : Text) {start : Nat}
    (stands : grammar.StandsAt text start body) :
    grammar.StandsAt (before ++ text) (before.length + start) body := by
  refine ⟨stands.written, ?_⟩
  rw [List.drop_length_add_append]
  exact stands.held

theorem StandsAt.getElem?_eq {start offset : Nat} (stands : grammar.StandsAt text start body)
    (within : offset < body.length + 1) :
    text[start + offset]? = (grammar.lead :: body)[offset]? := by
  rcases stands.held with ⟨following, equal⟩
  rw [← List.getElem?_drop, ← equal, List.getElem?_append_left within]

/-- Every position of a generated text holds a raw code point or lies inside an escape. -/
theorem Generates.raw_or_inside (generates : grammar.Generates text) {position : Nat}
    {point : CodePoint} (found : text[position]? = some point) :
    grammar.raw point
      ∨ ∃ start body, grammar.StandsAt text start body
        ∧ start ≤ position ∧ position ≤ start + body.length := by
  induction generates generalizing position with
  | nil => cases found
  | @raw head rest stands _ induction =>
      cases position with
      | zero => exact .inl (Option.some.inj found ▸ stands)
      | succ position =>
          rcases induction found with here | ⟨start, body, inside, first, last⟩
          · exact .inl here
          · refine .inr ⟨1 + start, body, inside.append_left [head], ?_, ?_⟩ <;> omega
  | @escape body rest written _ induction =>
      by_cases within : position ≤ body.length
      · exact .inr ⟨0, body, ⟨written, rest, rfl⟩, Nat.zero_le _, by omega⟩
      · have behind : rest[position - (body.length + 1)]? = some point := by
          rwa [← List.cons_append, List.getElem?_append_right (by simp; omega),
            List.length_cons] at found
        rcases induction behind with here | ⟨start, inner, inside, first, last⟩
        · exact .inl here
        · have shifted := inside.append_left (grammar.lead :: body)
          rw [List.length_cons, List.cons_append] at shifted
          exact .inr ⟨_, inner, shifted, by omega, by omega⟩

/-- What a position inside an escape holds: the lead at its start, and else a part of its body. -/
theorem StandsAt.lead_or_body {start position : Nat} {point : CodePoint}
    (stands : grammar.StandsAt text start body) (first : start ≤ position)
    (last : position ≤ start + body.length) (found : text[position]? = some point) :
    (position = start ∧ point = grammar.lead)
      ∨ ∃ offset, position = start + (offset + 1) ∧ body[offset]? = some point := by
  rcases Nat.exists_eq_add_of_le first with ⟨offset, rfl⟩
  rw [stands.getElem?_eq (by omega)] at found
  cases offset with
  | zero => exact .inl ⟨rfl, (Option.some.inj found).symm⟩
  | succ offset =>
      rw [List.getElem?_cons_succ] at found
      exact .inr ⟨offset, rfl, found⟩

/-- A code point of a generated text stands raw, is a lead, or comes from the body of an escape. -/
theorem Generates.raw_or_lead_or_mem (generates : grammar.Generates text) {point : CodePoint}
    (member : point ∈ text) :
    grammar.raw point ∨ point = grammar.lead ∨ ∃ body, grammar.body body ∧ point ∈ body := by
  rcases List.getElem?_of_mem member with ⟨position, found⟩
  rcases generates.raw_or_inside found with raw | ⟨start, body, stands, first, last⟩
  · exact .inl raw
  · rcases stands.lead_or_body first last found with ⟨_, lead⟩ | ⟨offset, _, inside⟩
    · exact .inr (.inl lead)
    · exact .inr (.inr ⟨body, stands.written, List.mem_of_getElem? inside⟩)

/-- Where no lead stands raw or in the body of an escape, every lead starts an escape. -/
theorem Generates.exists_standsAt (generates : grammar.Generates text)
    (escaped : ¬grammar.raw grammar.lead)
    (clean : ∀ body, grammar.body body → grammar.lead ∉ body) {start : Nat}
    (found : text[start]? = some grammar.lead) : ∃ body, grammar.StandsAt text start body := by
  rcases generates.raw_or_inside found with raw | ⟨opening, body, stands, first, last⟩
  · exact absurd raw escaped
  · rcases stands.lead_or_body first last found with ⟨rfl, _⟩ | ⟨offset, _, inside⟩
    · exact ⟨body, stands⟩
    · exact absurd (List.mem_of_getElem? inside) (clean body stands.written)

/-- A code point that is no lead and may not stand raw lies in the body of an escape. -/
theorem Generates.exists_in_body (generates : grammar.Generates text) {position : Nat}
    {point : CodePoint} (found : text[position]? = some point) (escaped : ¬grammar.raw point)
    (different : point ≠ grammar.lead) :
    ∃ start body, grammar.StandsAt text start body
      ∧ ∃ offset, position = start + (offset + 1) ∧ body[offset]? = some point := by
  rcases generates.raw_or_inside found with raw | ⟨start, body, stands, first, last⟩
  · exact absurd raw escaped
  · rcases stands.lead_or_body first last found with ⟨_, lead⟩ | inside
    · exact absurd lead different
    · exact ⟨start, body, stands, inside⟩

end EscapeGrammar

/-- Where every code point is written in a grammar and the immune ones may stand raw, so is every
text. -/
theorem Codec.generates_encode {codec : Codec} {grammar : EscapeGrammar} {immune : List CodePoint}
    (kept : ∀ point ∈ immune, grammar.raw point)
    (written : ∀ point, grammar.Generates (codec.escape point)) (text : Text) :
    grammar.Generates (codec.encode immune text) := by
  apply EscapeGrammar.generates_flatMap
  intro point _
  unfold Codec.encodePoint
  split
  next immunity => exact EscapeGrammar.generates_raw (kept point immunity)
  next => exact written point

end Escaping
