import Escaping.Proofs.Codec.OctetRun
import Escaping.Proofs.Codec.Walking

/-!
Stray percent signs. A text is searched for one by looking at the two code points behind each
percent sign, and it is decoded by taking runs of escapes as a whole. Both ways agree on where an
escape starts: since a percent sign is no digit, one that stands within a run starts the next escape
of it. So a pass keeps a percent sign exactly where the search finds one.
-/

namespace Escaping

namespace OctetRun

variable {lead : CodePoint} {text : Text} {octet : UInt8} {octets : Octets}

theorem isHexDigit_of_octet? {high low : CodePoint} (written : octet? high low = some octet) :
    high.isHexDigit = true ∧ low.isHexDigit = true := by
  unfold octet? at written
  split at written
  next digits => exact digits
  next => cases written

theorem read_of_octet?_eq_none {high low : CodePoint} (malformed : octet? high low = none)
    (rest : Text) : read lead (high :: low :: rest) = [] := by
  unfold read
  rw [malformed]

/-- A run opens with its first escape, and the rest of it stands behind that. -/
theorem of_runAt_eq_cons (run : runAt lead text = octet :: octets) :
    ∃ high low rest, text = lead :: high :: low :: rest
      ∧ octet? high low = some octet ∧ runAt lead rest = octets := by
  have nonempty : runAt lead text ≠ [] := by
    rw [run]
    exact List.cons_ne_nil _ _
  rcases unescape_of_runAt nonempty with ⟨tail, rfl, _⟩
  rw [runAt_lead] at run
  match tail with
  | [] => cases run
  | [_] => cases run
  | high :: low :: rest =>
      cases written : octet? high low with
      | none =>
          rw [read_of_octet?_eq_none written] at run
          cases run
      | some first =>
          rw [read_cons written] at run
          cases run
          exact ⟨high, low, rest, rfl, written, rfl⟩

/-- A lead within a run starts a run itself, namely what is left of the run there. -/
theorem runAt_drop_ne_nil (noDigit : lead.isHexDigit = false) {offset : Nat}
    (inside : offset < 3 * (runAt lead text).length)
    (leads : (text.drop offset).head? = some lead) : runAt lead (text.drop offset) ≠ [] := by
  -- Along the octets of the run: an offset is in the first escape, or in the run behind it.
  generalize run : runAt lead text = octets at inside
  induction octets generalizing text offset with
  | nil => exact absurd inside (Nat.not_lt_zero _)
  | cons octet octets induction =>
      rcases of_runAt_eq_cons run with ⟨high, low, rest, rfl, written, later⟩
      rcases isHexDigit_of_octet? written with ⟨highDigit, lowDigit⟩
      match offset with
      | 0 =>
          rw [List.drop_zero, run]
          exact List.cons_ne_nil _ _
      | 1 =>
          cases leads
          rw [noDigit] at highDigit
          cases highDigit
      | 2 =>
          cases leads
          rw [noDigit] at lowDigit
          cases lowDigit
      | following + 3 =>
          rw [List.length_cons] at inside
          show runAt lead (rest.drop following) ≠ []
          refine induction ?_ later ?_
          · exact leads
          · omega

theorem findAt_eq (lead : CodePoint) (text : Text) (position : Nat) :
    Decoder.findAt ⟨lead, unescape lead⟩ text position
      = if runAt lead (text.drop position) = [] then none
        else some ⟨Utf8.decode (runAt lead (text.drop position)),
          position + 3 * (runAt lead (text.drop position)).length⟩ := by
  unfold Decoder.findAt
  cases text.drop position with
  | nil => rfl
  | cons head tail =>
      by_cases starts : head = lead
      · subst starts
        rw [runAt_lead]
        dsimp only
        rw [if_pos rfl, unescape]
        by_cases empty : read head tail = []
        · simp [empty]
        · have positive := List.length_pos_iff.mpr empty
          have stop : position + 1 + (3 * (read head tail).length - 1)
              = position + 3 * (read head tail).length := by omega
          simp [empty, stop]
      · simp [runAt, starts]

end OctetRun

namespace Percent

variable {text : Text} {position : Nat}

/-- A percent sign at which no escape is found. -/
def StrayAt (text : Text) (position : Nat) : Prop :=
  text[position]? = some percent ∧ codec.decodeAt text position = none

theorem decodeAt_eq_none_iff :
    codec.decodeAt text position = none ↔ OctetRun.runAt percent (text.drop position) = [] := by
  have found : codec.decodeAt text position
      = Decoder.findAt ⟨percent, OctetRun.unescape percent⟩ text position := rfl
  rw [found, OctetRun.findAt_eq]
  split
  next empty => exact iff_of_true rfl empty
  next run => exact iff_of_false (Option.some_ne_none _) run

theorem strayAt_iff : StrayAt text position
    ↔ (text.drop position).head? = some percent
      ∧ OctetRun.runAt percent (text.drop position) = [] := by
  rw [StrayAt, decodeAt_eq_none_iff, List.head?_drop]

/-- Two digits behind a percent sign are what makes an escape of it. -/
theorem startsEscape_eq_false_iff {tail : Text} :
    startsEscape tail = false ↔ OctetRun.read percent tail = [] := by
  match tail with
  | [] => exact iff_of_true rfl rfl
  | [_] => exact iff_of_true rfl rfl
  | high :: low :: rest =>
      cases written : OctetRun.octet? high low with
      | none =>
          have malformed : ¬(high.isHexDigit = true ∧ low.isHexDigit = true) := fun digits => by
            rw [OctetRun.octet?, if_pos digits] at written
            cases written
          rw [startsEscape, OctetRun.read_of_octet?_eq_none written, ← Bool.not_eq_true,
            Bool.and_eq_true]
          exact iff_of_true malformed rfl
      | some octet =>
          rcases OctetRun.isHexDigit_of_octet? written with ⟨highDigit, lowDigit⟩
          rw [startsEscape, OctetRun.read_cons written, highDigit, lowDigit]
          exact iff_of_false (Bool.noConfusion ·) (List.cons_ne_nil _ _)

theorem strayAt_zero {head : CodePoint} {tail : Text} :
    StrayAt (head :: tail) 0 ↔ head = percent ∧ startsEscape tail = false := by
  rw [strayAt_iff, startsEscape_eq_false_iff, List.drop_zero, List.head?_cons,
    Option.some.injEq]
  apply and_congr_right
  rintro rfl
  rw [OctetRun.runAt_lead]

theorem strayAt_succ {head : CodePoint} {tail : Text} :
    StrayAt (head :: tail) (position + 1) ↔ StrayAt tail position := by
  rw [strayAt_iff, strayAt_iff, List.drop_succ_cons]

theorem not_strayAt_nil : ¬StrayAt [] position := by
  rintro ⟨there, _⟩
  cases there

theorem not_strayAt_of_stray?_eq_none (careful : stray? text = none) (position : Nat) :
    ¬StrayAt text position := by
  induction text generalizing position with
  | nil => exact not_strayAt_nil
  | cons head tail induction =>
      simp only [stray?, Bool.not_eq_true'] at careful
      split at careful
      next => cases careful
      next regular =>
        cases position with
        | zero =>
            rw [strayAt_zero]
            exact regular
        | succ position =>
            rw [strayAt_succ]
            exact induction (Option.map_eq_none_iff.mp careful) position

/-- The position that the search gives is the first one. -/
theorem first_of_stray?_eq_some (found : stray? text = some position) :
    StrayAt text position ∧ ∀ before < position, ¬StrayAt text before := by
  induction text generalizing position with
  | nil => cases found
  | cons head tail induction =>
      simp only [stray?, Bool.not_eq_true'] at found
      split at found
      next stray =>
        cases found
        exact ⟨strayAt_zero.mpr stray, fun _ before => absurd before (Nat.not_lt_zero _)⟩
      next regular =>
        rcases Option.map_eq_some_iff.mp found with ⟨later, there, rfl⟩
        rcases induction there with ⟨stray, first⟩
        refine ⟨strayAt_succ.mpr stray, fun before earlier => ?_⟩
        cases before with
        | zero =>
            rw [strayAt_zero]
            exact regular
        | succ before =>
            rw [strayAt_succ]
            exact first before (Nat.lt_of_succ_lt_succ earlier)

theorem stray?_eq_none_iff : stray? text = none ↔ ∀ position, ¬StrayAt text position := by
  constructor
  · exact not_strayAt_of_stray?_eq_none
  · intro regular
    cases found : stray? text with
    | none => rfl
    | some position => exact absurd (first_of_stray?_eq_some found).1 (regular position)

/-- An escape that is found covers no stray percent sign. -/
theorem not_strayAt_of_decodeAt {found : Found} {index : Nat}
    (matched : codec.decodeAt text position = some found)
    (behind : position ≤ index) (before : index < found.stop) : ¬StrayAt text index := by
  have here : Decoder.findAt ⟨percent, OctetRun.unescape percent⟩ text position = some found :=
    matched
  rw [OctetRun.findAt_eq] at here
  split at here
  next => cases here
  next run =>
    cases here
    rcases Nat.exists_eq_add_of_le behind with ⟨offset, rfl⟩
    have inside := Nat.add_lt_add_iff_left.mp before
    rw [strayAt_iff, ← List.drop_drop]
    rintro ⟨leads, empty⟩
    exact OctetRun.runAt_drop_ne_nil (by decide) inside leads empty

/-- A pass keeps the stray percent signs, and no others. -/
theorem kept_mem_iff {start : Nat} {pieces : List Piece} (cuts : codec.Cuts text start pieces) :
    .kept percent ∈ pieces ↔ ∃ position, start ≤ position ∧ StrayAt text position := by
  induction cuts with
  | nil =>
      apply iff_of_false List.not_mem_nil
      rintro ⟨position, beyond, there, _⟩
      rw [List.getElem?_eq_none beyond] at there
      cases there
  | @cons start piece pieces stands _ induction =>
      rw [List.mem_cons, induction]
      cases piece with
      | kept point =>
          constructor
          · rintro (same | ⟨position, behind, stray⟩)
            · cases same
              exact ⟨start, Nat.le_refl _, stands⟩
            · exact ⟨position, Nat.le_of_succ_le behind, stray⟩
          · rintro ⟨position, behind, stray⟩
            rcases Nat.eq_or_lt_of_le behind with rfl | later
            · have same := stands.1.symm.trans stray.1
              cases same
              exact .inl rfl
            · exact .inr ⟨position, later, stray⟩
      | escape source image =>
          constructor
          · rintro (same | ⟨position, behind, stray⟩)
            · cases same
            · exact ⟨position, Nat.le_trans (Nat.le_add_right _ _) behind, stray⟩
          · rintro ⟨position, behind, stray⟩
            -- Nothing stray stands within the escape, so it stands behind.
            refine .inr ⟨position, Nat.le_of_not_lt fun within => ?_, stray⟩
            exact not_strayAt_of_decodeAt stands.2 behind within stray

end Percent

end Escaping
