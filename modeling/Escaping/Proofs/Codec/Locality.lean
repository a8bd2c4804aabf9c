import Escaping.Proofs.Codec.Walking
import Escaping.Routine.Position

/-!
Where escapes lie. An escape starts with the lead at its position, takes at least one code point
more, ends within the text and stands for something. What stands before its position has no part in
it: in a longer text it is found with the same meaning, further behind by what was put in front.
-/

namespace Escaping

/-- Text put in front moves an escape and changes nothing else about it. -/
theorem Decoder.findAt_append (decoder : Decoder) (before text : Text) (position : Nat) :
    decoder.findAt (before ++ text) (before.length + position)
      = (decoder.findAt text position).map fun found =>
        ⟨found.text, before.length + found.stop⟩ := by
  induction before with
  | nil => simp
  | cons head tail induction =>
      have next : (head :: tail).length + position = tail.length + position + 1 := by
        rw [List.length_cons]
        omega
      rw [List.cons_append, next, findAt_succ, induction, Option.map_map]
      congr 1
      funext found
      simp only [Function.comp_apply, List.length_cons, Found.mk.injEq, true_and]
      omega

namespace Codec

variable (codec : Codec) (text : Text) (position : Nat)

theorem decodeAt_append (before : Text) :
    codec.decodeAt (before ++ text) (before.length + position)
      = (codec.decodeAt text position).map fun found =>
        ⟨found.text, before.length + found.stop⟩ := by
  cases decodes : codec.decoder with
  | none => simp only [decodeAt, decodes, Option.bind_none, Option.map_none]
  | some decoder => simp only [decodeAt, decodes, Option.bind_some, decoder.findAt_append]

theorem decodeAt_of_length_le (beyond : text.length ≤ position) :
    codec.decodeAt text position = none := by
  cases decodes : codec.decoder with
  | none => rw [decodeAt, decodes, Option.bind_none]
  | some decoder =>
      rw [decodeAt, decodes, Option.bind_some, Decoder.findAt, List.drop_eq_nil_of_le beyond]

end Codec

theorem OctetRun.text_ne_nil {lead : CodePoint} {tail : Text} {found : Unescaped}
    (matched : unescape lead tail = some found) : found.text ≠ [] := by
  simp only [unescape] at matched
  split at matched
  · cases matched
  next nonempty =>
    cases matched
    cases octets : read lead tail with
    | nil => simp [octets] at nonempty
    | cons first rest =>
        rw [Utf8.decode]
        exact List.cons_ne_nil _ _

/-- An escape of a scheme lies at a position of a text. -/
structure Position.Place.LiesAt (place : Place) (scheme : Scheme) (text : Text) (position : Nat) :
    Prop where
  lead : ∃ lead, scheme.codec.lead = some lead ∧ text[position]? = some lead
  longer : (position : Int) + 2 ≤ place.stop
  within : place.stop ≤ text.length
  nonempty : place.text ≠ []

namespace Scheme

variable {scheme : Scheme} {text : Text} {position : Nat}

/-- No scheme has an escape that stands for nothing. -/
theorem text_ne_nil {decoder : Decoder} (decodes : scheme.codec.decoder = some decoder)
    {tail : Text} {found : Unescaped} (matched : decoder.unescape tail = some found) :
    found.text ≠ [] := by
  rcases readsPoints_or_readsOctets decodes with points | ⟨lead, rfl⟩
  · intro empty
    have single := (points.bounds matched).1
    rw [empty] at single
    cases single
  · exact OctetRun.text_ne_nil matched

theorem liesAt_of_decodeAt {found : Found}
    (matched : scheme.codec.decodeAt text position = some found) :
    Position.Place.LiesAt ⟨found.text, found.stop⟩ scheme text position := by
  have bounds := bounds_of_decodeAt matched
  cases decodes : scheme.codec.decoder with
  | none =>
      rw [Codec.decodeAt, decodes] at matched
      cases matched
  | some decoder =>
      rcases (Codec.decodeAt_eq_some_iff decodes).mp matched with
        ⟨tail, unescaped, here, read, rfl⟩
      have nonempty := text_ne_nil decodes read
      have positive := List.length_pos_iff.mpr nonempty
      constructor
      · refine ⟨decoder.lead, by rw [Codec.lead, decodes, Option.map_some], ?_⟩
        rw [← List.head?_drop, here, List.head?_cons]
      · dsimp only at bounds ⊢
        omega
      · exact Int.ofNat_le.mpr bounds.1
      · exact nonempty

/-- At every position from the start on, looking for an escape gives an answer. What is found lies
there; at the end of the text and beyond it nothing is; and the answer hangs on the text from the
position on alone, so that text put in front moves what is found and brings nothing in or out. -/
theorem find_located (scheme : Scheme) (text : Text) (position : Nat) :
    ∃ answer, Position.find scheme text position = .ok answer
      ∧ (∀ place, answer = some place → place.LiesAt scheme text position)
      ∧ (text.length ≤ position → answer = none)
      ∧ ∀ before : Text,
        Position.find scheme (before ++ text) ((before.length + position : Nat) : Int)
          = .ok (answer.map fun place => ⟨place.text, before.length + place.stop⟩) := by
  refine ⟨_, Position.find_ofNat scheme text position, ?_, ?_, ?_⟩
  · intro place answered
    rcases Option.map_eq_some_iff.mp answered with ⟨found, matched, rfl⟩
    exact liesAt_of_decodeAt matched
  · intro beyond
    rw [Codec.decodeAt_of_length_le _ _ _ beyond, Option.map_none]
  · intro before
    rw [Position.find_ofNat, Codec.decodeAt_append, Option.map_map, Option.map_map]
    rfl

/-- A backslash in front could read with the first one, but the pair is found behind it. -/
theorem find_located_behindBackslash :
    Position.find .javaScript (Text.ofString "\\ud83d\\ude00") 0
        = .ok (some ⟨[.ofNat 0x1f600], 12⟩)
      ∧ Position.Place.LiesAt ⟨[.ofNat 0x1f600], 12⟩ .javaScript
        (Text.ofString "\\ud83d\\ude00") 0
      ∧ Position.find .javaScript (Text.ofString "\\\\ud83d\\ude00") 1
        = .ok (some ⟨[.ofNat 0x1f600], 13⟩)
      ∧ Position.find .javaScript (Text.ofString "\\ud83d\\ude00") 12 = .ok none := by
  have read : Position.find .javaScript (Text.ofString "\\ud83d\\ude00") 0
      = .ok (some ⟨[.ofNat 0x1f600], 12⟩) :=
    (Position.find_ofNat .javaScript _ 0).trans (congrArg Except.ok (by decide +kernel))
  rcases find_located .javaScript (Text.ofString "\\ud83d\\ude00") 0 with
    ⟨answer, found, lies, _, behind⟩
  cases read.symm.trans found
  rcases find_located .javaScript (Text.ofString "\\ud83d\\ude00") 12 with
    ⟨finished, nothing, _, ends, _⟩
  rw [ends (by decide)] at nothing
  exact ⟨read, lies _ rfl, behind [.ofNat 0x5c], nothing⟩

end Scheme

end Escaping
