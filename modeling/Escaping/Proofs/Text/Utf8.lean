import Escaping.Proofs.Text.Digits
import Escaping.Text.Utf8

/-!
UTF-8 read back. Every code point but a surrogate is read from the octets it was written as, and
what follows them is read on its own.
-/

namespace Escaping

namespace Utf8

theorem ofCodePoint_ne_nil (point : CodePoint) : ofCodePoint point ≠ [] := by
  simp only [ofCodePoint]
  split
  · simp
  split
  · simp
  split <;> simp

private theorem toNat_octet {number : Nat} (small : number < 0x100) :
    (UInt8.ofNat number).toNat = number :=
  UInt8.toNat_ofNat_of_lt' small

private theorem toNat_continuation (number : Nat) :
    (UInt8.ofNat (0x80 + number % 0x40)).toNat = 0x80 + number % 0x40 :=
  toNat_octet (by omega)

private theorem isContinuation_continuation (number : Nat) :
    isContinuation (0x80 + number % 0x40) = true := by
  simp only [isContinuation, Bool.and_eq_true, decide_eq_true_eq]
  omega

/-- The ranges for second octets leave out what no code point but a surrogate is written as. -/
private theorem isSecond_iff (first second : Nat) :
    isSecond first second = true
      ↔ (0xc2 ≤ first ∧ first ≤ 0xf4) ∧ (0x80 ≤ second ∧ second ≤ 0xbf)
      ∧ (first = 0xe0 → 0xa0 ≤ second) ∧ (first = 0xed → second ≤ 0x9f)
      ∧ (first = 0xf0 → 0x90 ≤ second) ∧ (first = 0xf4 → second ≤ 0x8f) := by
  unfold isSecond
  repeat' split
  all_goals
    simp only [Bool.and_eq_true, decide_eq_true_eq]
    omega

theorem readSequence_ofCodePoint {point : CodePoint} (scalar : point.isSurrogate = false)
    (rest : Octets) :
    ∃ first following, ofCodePoint point = first :: following
      ∧ readSequence first (following ++ rest) = ⟨some point, following.length⟩ := by
  have inside := point.inRange
  have notSurrogate : ¬(0xd800 ≤ point.val ∧ point.val ≤ 0xdfff) := by
    simpa [CodePoint.isSurrogate] using scalar
  simp only [ofCodePoint]
  split
  next one =>
    refine ⟨_, _, rfl, ?_⟩
    have first := toNat_octet (show point.val < 0x100 by omega)
    simp only [readSequence, first, if_pos one, CodePoint.ofNat_val, List.length_nil]
  split
  next two =>
    refine ⟨_, _, rfl, ?_⟩
    have first := toNat_octet (show 0xc0 + point.val / 0x40 < 0x100 by omega)
    have second : isSecond (0xc0 + point.val / 0x40) (0x80 + point.val % 0x40) = true :=
      (isSecond_iff _ _).mpr (by omega)
    have number : (0xc0 + point.val / 0x40 - 0xc0) * 0x40 + (0x80 + point.val % 0x40 - 0x80)
        = point.val := by omega
    simp only [List.cons_append, List.nil_append, readSequence, first, toNat_continuation, second,
      number, CodePoint.ofNat_val]
    rw [if_neg (by omega), if_neg (by simp), if_pos (by omega)]
    rfl
  split
  next three =>
    refine ⟨_, _, rfl, ?_⟩
    have first := toNat_octet (show 0xe0 + point.val / 0x1000 < 0x100 by omega)
    have second : isSecond (0xe0 + point.val / 0x1000) (0x80 + point.val / 0x40 % 0x40) = true :=
      (isSecond_iff _ _).mpr (by omega)
    have number : (0xe0 + point.val / 0x1000 - 0xe0) * 0x1000
        + (0x80 + point.val / 0x40 % 0x40 - 0x80) * 0x40 + (0x80 + point.val % 0x40 - 0x80)
        = point.val := by omega
    simp only [List.cons_append, List.nil_append, readSequence, first, toNat_continuation, second,
      isContinuation_continuation, number, CodePoint.ofNat_val]
    rw [if_neg (by omega), if_neg (by simp), if_neg (by omega), if_neg (by simp),
      if_pos (by omega)]
    rfl
  next four =>
    refine ⟨_, _, rfl, ?_⟩
    have first := toNat_octet (show 0xf0 + point.val / 0x40000 < 0x100 by omega)
    have second :
        isSecond (0xf0 + point.val / 0x40000) (0x80 + point.val / 0x1000 % 0x40) = true :=
      (isSecond_iff _ _).mpr (by omega)
    have number : (0xf0 + point.val / 0x40000 - 0xf0) * 0x40000
        + (0x80 + point.val / 0x1000 % 0x40 - 0x80) * 0x1000
        + (0x80 + point.val / 0x40 % 0x40 - 0x80) * 0x40 + (0x80 + point.val % 0x40 - 0x80)
        = point.val := by omega
    simp only [List.cons_append, List.nil_append, readSequence, first, toNat_continuation, second,
      isContinuation_continuation, number, CodePoint.ofNat_val]
    rw [if_neg (by omega), if_neg (by simp), if_neg (by omega), if_neg (by simp),
      if_neg (by omega), if_neg (by simp)]
    rfl

/-- A code point is read from the octets that write it, whatever octets follow. -/
theorem decode_ofCodePoint_append {point : CodePoint} (scalar : point.isSurrogate = false)
    (rest : Octets) : decode (ofCodePoint point ++ rest) = point :: decode rest := by
  rcases readSequence_ofCodePoint scalar rest with ⟨first, following, written, read⟩
  rw [written, List.cons_append, decode, read]
  simp

/-- A sequence is never read as a surrogate: what would give one has no second octet of its range. -/
theorem isSurrogate_of_readSequence {first : UInt8} {rest : Octets} {point : CodePoint}
    (read : (readSequence first rest).point = some point) : point.isSurrogate = false := by
  simp only [readSequence] at read
  split at read
  next one =>
    rw [← Option.some.inj read]
    exact CodePoint.isSurrogate_ofNat (by omega)
  split at read
  next => cases read
  next second rest =>
    split at read
    next => cases read
    next accepted =>
      have bounds := (isSecond_iff first.toNat second.toNat).mp (by simpa using accepted)
      split at read
      next two =>
        rw [← Option.some.inj read]
        exact CodePoint.isSurrogate_ofNat (by omega)
      split at read
      next => cases read
      next third rest =>
        split at read
        next => cases read
        next continues =>
          have middle : 0x80 ≤ third.toNat ∧ third.toNat ≤ 0xbf := by
            simpa [isContinuation] using continues
          split at read
          next three =>
            rw [← Option.some.inj read]
            exact CodePoint.isSurrogate_ofNat (by omega)
          split at read
          next => cases read
          next fourth rest =>
            split at read
            next => cases read
            next =>
              rw [← Option.some.inj read]
              exact CodePoint.isSurrogate_ofNat (by omega)

/-- Reading gives no surrogates, whatever the octets are. -/
theorem isSurrogate_of_mem_decode {octets : Octets} {point : CodePoint}
    (member : point ∈ decode octets) : point.isSurrogate = false := by
  fun_induction decode octets with
  | case1 => cases member
  | case2 first rest sequence induction =>
      rcases List.mem_cons.mp member with here | later
      · cases read : sequence.point with
        | none =>
            rw [here, read]
            decide
        | some known =>
            rw [here, read]
            exact isSurrogate_of_readSequence read
      · exact induction later

/-- Each step of reading takes an octet and gives one code point. -/
theorem length_decode_le (octets : Octets) : (decode octets).length ≤ octets.length := by
  fun_induction decode octets with
  | case1 => exact Nat.le_refl 0
  | case2 first rest sequence induction =>
      rw [List.length_drop] at induction
      rw [List.length_cons, List.length_cons]
      omega

theorem surrogateRun?_eq_none_iff {text : Text} :
    surrogateRun? text = none ↔ ∀ point ∈ text, point.isSurrogate = false := by
  rw [← List.findIdx?_eq_none_iff]
  unfold surrogateRun?
  split
  next absent => simp [absent]
  next start found => simp [found]

/-- This run is the first one of surrogates in a text, and nothing of it is left out. -/
structure SurrogateRun.IsFirstIn (found : SurrogateRun) (text : Text) : Prop where
  held : ∃ point, text[found.start]? = some point ∧ point.isSurrogate = true
  first : ∀ index < found.start, ∀ point, text[index]? = some point → point.isSurrogate = false
  surrogates : ∀ point ∈ found.run, point.isSurrogate = true
  maximal : ∃ rest, text.drop found.start = found.run ++ rest
    ∧ ∀ point, rest.head? = some point → point.isSurrogate = false

theorem isFirstIn_of_surrogateRun? {text : Text} {found : SurrogateRun}
    (outcome : surrogateRun? text = some found) : found.IsFirstIn text := by
  unfold surrogateRun? at outcome
  split at outcome
  next => cases outcome
  next start there =>
    cases outcome
    rcases List.findIdx?_eq_some_iff_getElem.mp there with ⟨within, surrogate, earlier⟩
    let behind := (text.drop start).dropWhile CodePoint.isSurrogate
    refine ⟨⟨_, List.getElem?_eq_getElem within, surrogate⟩, ?_, ?_, behind,
      List.takeWhile_append_dropWhile.symm, ?_⟩
    · intro index before point here
      rcases List.getElem?_eq_some_iff.mp here with ⟨_, rfl⟩
      exact Bool.eq_false_iff.mpr (earlier index before)
    · exact fun point member => List.all_eq_true.mp List.all_takeWhile point member
    · intro point next
      have stopped := List.head?_dropWhile_not CodePoint.isSurrogate (text.drop start)
      rw [next] at stopped
      exact stopped

theorem exists_surrogateRun?_iff {text : Text} :
    (∃ found, surrogateRun? text = some found) ↔ ∃ point ∈ text, point.isSurrogate = true := by
  cases outcome : surrogateRun? text with
  | none =>
      have scalar := surrogateRun?_eq_none_iff.mp outcome
      apply iff_of_false
      · rintro ⟨found, impossible⟩
        cases impossible
      · rintro ⟨point, member, surrogate⟩
        rw [scalar point member] at surrogate
        cases surrogate
  | some found =>
      rcases (isFirstIn_of_surrogateRun? outcome).held with ⟨point, here, surrogate⟩
      exact iff_of_true ⟨found, rfl⟩ ⟨point, List.mem_of_getElem? here, surrogate⟩

end Utf8

end Escaping
