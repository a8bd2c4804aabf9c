import Escaping.Text.Utf16

/-!
Surrogates joined. Joining leaves no high surrogate directly before a low one, and it keeps the
units, so that a sequence of units stands for one text: the one without a pair to join that has
these units.
-/

namespace Escaping

namespace Utf16

/-- The units that stand for a code point. -/
def unitsOf (point : CodePoint) : List Nat :=
  if point.val < 0x10000 then [point.val] else [highUnit point.val, lowUnit point.val]

/-- What a sequence of units stands for. -/
def read (units : List UInt16) : Text := joinPairs (units.map fun unit => .ofNat unit.toNat)

theorem isHighSurrogate_iff {point : CodePoint} :
    point.isHighSurrogate = true ↔ 0xd800 ≤ point.val ∧ point.val ≤ 0xdbff := by
  simp only [CodePoint.isHighSurrogate, Bool.and_eq_true, decide_eq_true_eq]

theorem isLowSurrogate_iff {point : CodePoint} :
    point.isLowSurrogate = true ↔ 0xdc00 ≤ point.val ∧ point.val ≤ 0xdfff := by
  simp only [CodePoint.isLowSurrogate, Bool.and_eq_true, decide_eq_true_eq]

theorem highUnit_bounds {number : Nat} (inside : number < 0x110000) :
    0xd800 ≤ highUnit number ∧ highUnit number ≤ 0xdbff := by
  unfold highUnit
  omega

theorem lowUnit_bounds (number : Nat) : 0xdc00 ≤ lowUnit number ∧ lowUnit number ≤ 0xdfff := by
  unfold lowUnit
  omega

/-- A pair stands for a code point past the basic plane. -/
theorem val_pair {high low : Nat} (isHigh : 0xd800 ≤ high ∧ high ≤ 0xdbff)
    (isLow : 0xdc00 ≤ low ∧ low ≤ 0xdfff) :
    (CodePoint.ofNat (pair high low)).val = pair high low
      ∧ 0x10000 ≤ pair high low := by
  have inside : pair high low < 0x110000 := by
    unfold pair
    omega
  refine ⟨CodePoint.val_ofNat inside, ?_⟩
  unfold pair
  omega

theorem unitsOf_pair {high low : Nat} (isHigh : 0xd800 ≤ high ∧ high ≤ 0xdbff)
    (isLow : 0xdc00 ≤ low ∧ low ≤ 0xdfff) :
    unitsOf (.ofNat (pair high low)) = [high, low] := by
  rcases val_pair isHigh isLow with ⟨value, supplementary⟩
  have back : highUnit (pair high low) = high ∧ lowUnit (pair high low) = low := by
    unfold highUnit lowUnit pair
    omega
  rw [unitsOf, value, if_neg (by omega), back.1, back.2]

theorem unitsOf_of_lt {point : CodePoint} (basic : point.val < 0x10000) :
    unitsOf point = [point.val] := if_pos basic

/-- No high surrogate of the text is directly followed by a low one. -/
def Unpaired (text : Text) : Prop :=
  ∀ high low, [high, low] <:+: text →
    ¬(high.isHighSurrogate = true ∧ low.isLowSurrogate = true)

theorem Unpaired.tail {head : CodePoint} {tail : Text} (unpaired : Unpaired (head :: tail)) :
    Unpaired tail :=
  fun high low inside => unpaired high low (List.infix_cons inside)

theorem Unpaired.cons_cons {head next : CodePoint} {rest : Text}
    (apart : ¬(head.isHighSurrogate = true ∧ next.isLowSurrogate = true))
    (unpaired : Unpaired (next :: rest)) : Unpaired (head :: next :: rest) := by
  intro high low inside
  rcases List.infix_cons_iff.mp inside with opening | later
  · rcases List.cons_prefix_cons.mp opening with ⟨rfl, second⟩
    rcases List.cons_prefix_cons.mp second with ⟨rfl, _⟩
    exact apart
  · exact unpaired high low later

theorem unpaired_of_length_le_one {text : Text} (short : text.length ≤ 1) : Unpaired text := by
  intro high low inside
  have long := inside.length_le
  simp only [List.length_cons, List.length_nil] at long
  omega

theorem joinPairs_of_unpaired {text : Text} (unpaired : Unpaired text) :
    joinPairs text = text := by
  fun_induction joinPairs text with
  | case1 high low rest surrogates induction =>
      have adjacent : [high, low] <:+: high :: low :: rest := ⟨[], rest, rfl⟩
      exact absurd (Bool.and_eq_true_iff.mp surrogates) (unpaired high low adjacent)
  | case2 high low rest notPair induction => rw [induction unpaired.tail]
  | case3 => rfl
  | case4 => rfl

theorem length_joinPairs_le (text : Text) : (joinPairs text).length ≤ text.length := by
  fun_induction joinPairs text with
  | case1 high low rest surrogates induction =>
      simp only [List.length_cons]
      omega
  | case2 high low rest notPair induction => exact Nat.succ_le_succ induction
  | case3 => exact Nat.le_refl 1
  | case4 => exact Nat.le_refl 0

/-- Joining changes every text that has something to join, since a pair becomes one code point. -/
theorem joinPairs_eq_self_iff (text : Text) : joinPairs text = text ↔ Unpaired text := by
  refine ⟨fun same => ?_, joinPairs_of_unpaired⟩
  fun_induction joinPairs text with
  | case1 high low rest surrogates induction =>
      have shorter := length_joinPairs_le rest
      have lengths := congrArg List.length same
      simp only [List.length_cons] at lengths
      omega
  | case2 high low rest notPair induction =>
      have apart : ¬(high.isHighSurrogate = true ∧ low.isLowSurrogate = true) :=
        fun both => notPair (Bool.and_eq_true_iff.mpr both)
      exact (induction (List.cons.inj same).2).cons_cons apart
  | case3 last => exact unpaired_of_length_le_one (Nat.le_refl 1)
  | case4 => exact unpaired_of_length_le_one (Nat.zero_le 1)

/-- A code point and the start of what follows it make no pair. -/
def Apart (head : CodePoint) (rest : Text) : Prop :=
  ∀ next, rest.head? = some next → ¬(head.isHighSurrogate = true ∧ next.isLowSurrogate = true)

theorem Unpaired.apart {head : CodePoint} {rest : Text} (unpaired : Unpaired (head :: rest)) :
    Apart head rest := by
  intro next starts
  cases rest with
  | nil => cases starts
  | cons second others =>
      cases starts
      exact unpaired head next ⟨[], others, rfl⟩

theorem Unpaired.cons {head : CodePoint} {rest : Text} (apart : Apart head rest)
    (unpaired : Unpaired rest) : Unpaired (head :: rest) := by
  cases rest with
  | nil => exact unpaired_of_length_le_one (Nat.le_refl 1)
  | cons next others => exact unpaired.cons_cons (apart next rfl)

theorem joinPairs_cons {head : CodePoint} {rest : Text} (apart : Apart head rest) :
    joinPairs (head :: rest) = head :: joinPairs rest := by
  cases rest with
  | nil => rfl
  | cons next others =>
      have notPair := apart next rfl
      rw [← Bool.and_eq_true_iff] at notPair
      rw [joinPairs, if_neg notPair]

theorem joinPairs_pair {high low : CodePoint} (isHigh : high.isHighSurrogate = true)
    (isLow : low.isLowSurrogate = true) (rest : Text) :
    joinPairs (high :: low :: rest) = .ofNat (pair high.val low.val) :: joinPairs rest := by
  rw [joinPairs, if_pos (Bool.and_eq_true_iff.mpr ⟨isHigh, isLow⟩)]

/-- Joining keeps the units. -/
theorem flatMap_unitsOf_joinPairs {text : Text} (basic : ∀ point ∈ text, point.val < 0x10000) :
    (joinPairs text).flatMap unitsOf = text.map CodePoint.val := by
  fun_induction joinPairs text with
  | case1 high low rest surrogates induction =>
      rcases Bool.and_eq_true_iff.mp surrogates with ⟨isHigh, isLow⟩
      have following := induction fun point member => basic point (by simp [member])
      rw [List.flatMap_cons, unitsOf_pair (isHighSurrogate_iff.mp isHigh)
        (isLowSurrogate_iff.mp isLow), following]
      rfl
  | case2 high low rest notPair induction =>
      have following := induction fun point member => basic point (List.mem_cons_of_mem high member)
      rw [List.flatMap_cons, unitsOf_of_lt (basic high (by simp)), following]
      rfl
  | case3 last =>
      rw [List.flatMap_cons, unitsOf_of_lt (basic last (by simp))]
      rfl
  | case4 => rfl

/-- What is joined starts with a low surrogate only if the text does. -/
theorem head?_joinPairs {text : Text} {first : CodePoint}
    (starts : (joinPairs text).head? = some first) (isLow : first.isLowSurrogate = true) :
    text.head? = some first := by
  fun_induction joinPairs text with
  | case1 high low rest surrogates induction =>
      rcases Bool.and_eq_true_iff.mp surrogates with ⟨highSurrogate, lowSurrogate⟩
      rcases val_pair (isHighSurrogate_iff.mp highSurrogate) (isLowSurrogate_iff.mp lowSurrogate)
        with ⟨value, supplementary⟩
      have bounds := isLowSurrogate_iff.mp isLow
      rw [← Option.some.inj starts] at bounds
      omega
  | case2 => exact starts
  | case3 => exact starts
  | case4 => cases starts

/-- Joining leaves nothing to join. -/
theorem unpaired_joinPairs (text : Text) : Unpaired (joinPairs text) := by
  fun_induction joinPairs text with
  | case1 high low rest surrogates induction =>
      rcases Bool.and_eq_true_iff.mp surrogates with ⟨isHigh, isLow⟩
      rcases val_pair (isHighSurrogate_iff.mp isHigh) (isLowSurrogate_iff.mp isLow)
        with ⟨value, supplementary⟩
      refine induction.cons fun next _ both => ?_
      have bounds := isHighSurrogate_iff.mp both.1
      omega
  | case2 high low rest notPair induction =>
      refine induction.cons fun next starts both => ?_
      cases head?_joinPairs starts both.2
      exact notPair (Bool.and_eq_true_iff.mpr both)
  | case3 => exact unpaired_of_length_le_one (Nat.le_refl 1)
  | case4 => exact unpaired_of_length_le_one (Nat.zero_le 1)

/-- The units of a text start with a low one only if the text itself does. -/
theorem head?_units {text : Text} {first : CodePoint}
    (starts : ((text.flatMap unitsOf).map CodePoint.ofNat).head? = some first)
    (isLow : first.isLowSurrogate = true) : text.head? = some first := by
  cases text with
  | nil => cases starts
  | cons head rest =>
      by_cases basic : head.val < 0x10000
      · rwa [List.flatMap_cons, unitsOf_of_lt basic, List.singleton_append, List.map_cons,
          CodePoint.ofNat_val] at starts
      · have isHigh := highUnit_bounds head.inRange
        have bounds := isLowSurrogate_iff.mp isLow
        rw [List.flatMap_cons, unitsOf, if_neg basic, List.cons_append, List.map_cons,
          List.head?_cons, Option.some.injEq] at starts
        rw [← starts, CodePoint.val_ofNat (by omega)] at bounds
        omega

/-- A text that has nothing to join is what its units stand for. -/
theorem joinPairs_units {text : Text} (unpaired : Unpaired text) :
    joinPairs ((text.flatMap unitsOf).map .ofNat) = text := by
  induction text with
  | nil => rfl
  | cons head rest induction =>
      have following := induction unpaired.tail
      by_cases basic : head.val < 0x10000
      · have apart : Apart head ((rest.flatMap unitsOf).map .ofNat) :=
          fun next starts both => unpaired.apart next (head?_units starts both.2) both
        rw [List.flatMap_cons, unitsOf_of_lt basic, List.singleton_append, List.map_cons,
          CodePoint.ofNat_val, joinPairs_cons apart, following]
      · have isHigh := highUnit_bounds head.inRange
        have isLow := lowUnit_bounds head.val
        have high : (CodePoint.ofNat (highUnit head.val)).val = highUnit head.val :=
          CodePoint.val_ofNat (by omega)
        have low : (CodePoint.ofNat (lowUnit head.val)).val = lowUnit head.val :=
          CodePoint.val_ofNat (by omega)
        rw [← high] at isHigh
        rw [← low] at isLow
        rw [List.flatMap_cons, unitsOf, if_neg basic, List.cons_append, List.singleton_append,
          List.map_cons, List.map_cons, joinPairs_pair (isHighSurrogate_iff.mpr isHigh)
            (isLowSurrogate_iff.mpr isLow), high, low, pair_units (Nat.le_of_not_lt basic),
          CodePoint.ofNat_val, following]

/-- Units stand for the one text without a pair to join that has these units. -/
theorem read_eq_iff {units : List UInt16} {text : Text} :
    read units = text ↔ Unpaired text ∧ text.flatMap unitsOf = units.map UInt16.toNat := by
  constructor
  · rintro rfl
    refine ⟨unpaired_joinPairs _, ?_⟩
    have value : ∀ unit : UInt16, (CodePoint.ofNat unit.toNat).val = unit.toNat := by
      intro unit
      have small := unit.toNat_lt
      exact CodePoint.val_ofNat (by omega)
    rw [read, flatMap_unitsOf_joinPairs, List.map_map]
    · exact List.map_congr_left fun unit _ => value unit
    · intro point member
      rcases List.mem_map.mp member with ⟨unit, _, rfl⟩
      rw [value]
      exact unit.toNat_lt
  · rintro ⟨unpaired, written⟩
    have back := joinPairs_units unpaired
    rwa [written, List.map_map] at back

end Utf16

end Escaping
