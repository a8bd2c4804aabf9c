import Escaping.Text.Digits

/-!
Hexadecimal digits as escapes print them: how many there are, and that each is one. Printing is a
parameter, since some escapes use letters of upper case and some of lower case.
-/

namespace Escaping

namespace CodePoint

theorem bounds_of_alphanumeric {point : CodePoint} (plain : point.isAlphanumeric = true) :
    0x30 ≤ point.val ∧ point.val ≤ 0x7a := by
  simp only [isAlphanumeric, isDecimalDigit, isLetter, Bool.or_eq_true, Bool.and_eq_true,
    decide_eq_true_eq] at plain
  omega

theorem isSurrogate_of_lt {point : CodePoint} (below : point.val < 0xd800) :
    point.isSurrogate = false := by
  simp only [isSurrogate, Bool.and_eq_false_iff, decide_eq_false_iff_not]
  omega

/-- A number that is no surrogate gives none, even where it lies past the code space. -/
theorem isSurrogate_ofNat {number : Nat} (outside : ¬(0xd800 ≤ number ∧ number ≤ 0xdfff)) :
    (ofNat number).isSurrogate = false := by
  unfold ofNat
  split
  · simpa [isSurrogate] using outside
  · decide

theorem isSurrogate_of_alphanumeric {point : CodePoint} (plain : point.isAlphanumeric = true) :
    point.isSurrogate = false := by
  have bounds := bounds_of_alphanumeric plain
  exact isSurrogate_of_lt (by omega)

theorem ne_of_alphanumeric {point sign : CodePoint} (plain : point.isAlphanumeric = true)
    (special : sign.isAlphanumeric = false) : point ≠ sign := by
  rintro rfl
  rw [plain] at special
  cases special

theorem isAlphanumeric_of_isHexDigit {point : CodePoint} (digit : point.isHexDigit = true) :
    point.isAlphanumeric = true := by
  simp only [isHexDigit, isDecimalDigit, Bool.or_eq_true, Bool.and_eq_true, decide_eq_true_eq]
    at digit
  simp only [isAlphanumeric, isDecimalDigit, isLetter, Bool.or_eq_true, Bool.and_eq_true,
    decide_eq_true_eq]
  omega

theorem isDecimalDigit_lowerDigit {digit : Nat} (small : digit < 10) :
    (lowerDigit digit).isDecimalDigit = true := by
  have all : ∀ each ∈ List.range 10, (lowerDigit each).isDecimalDigit = true := by decide
  exact all digit (List.mem_range.mpr small)

end CodePoint

namespace Digits

theorem length_ofNat_le {base width number : Nat} (fits : number < Nat.pow base (width + 1)) :
    (ofNat base number).length ≤ width + 1 := by
  induction width generalizing number with
  | zero =>
      have small : number < base := by simpa using fits
      rw [ofNat, if_pos (.inl small)]
      exact Nat.le_refl 1
  | succ width induction =>
      rw [ofNat]
      split
      · simp
      · have quotient : number / base < Nat.pow base (width + 1) :=
          Nat.div_lt_of_lt_mul (Nat.mul_comm base (Nat.pow base (width + 1)) ▸ fits)
        have shorter := induction quotient
        rw [List.length_append, List.length_singleton]
        omega

private theorem foldl_eq (base start : Nat) (digits : List Nat) :
    digits.foldl (fun total digit => total * base + digit) start
      = start * Nat.pow base digits.length + toNat base digits := by
  induction digits generalizing start with
  | nil => exact (Nat.mul_one start).symm
  | cons head tail induction =>
      have following : toNat base (head :: tail)
          = head * Nat.pow base tail.length + toNat base tail := by
        rw [toNat, List.foldl_cons, Nat.zero_mul, Nat.zero_add]
        exact induction head
      have power : Nat.pow base (tail.length + 1) = base * Nat.pow base tail.length :=
        Nat.mul_comm _ _
      rw [List.foldl_cons, induction, following, List.length_cons, power, Nat.add_mul,
        Nat.mul_assoc, Nat.add_assoc]

/-- The first digit counts most. -/
theorem toNat_cons (base head : Nat) (tail : List Nat) :
    toNat base (head :: tail) = head * Nat.pow base tail.length + toNat base tail := by
  rw [toNat, List.foldl_cons, Nat.zero_mul, Nat.zero_add]
  exact foldl_eq base head tail

/-- Each digit is printed as a hexadecimal digit of its worth. -/
structure PrintsHex (print : Nat → CodePoint) : Prop where
  isHexDigit : ∀ {digit : Nat}, digit < 16 → (print digit).isHexDigit = true
  digitValue : ∀ {digit : Nat}, digit < 16 → (print digit).digitValue = digit

theorem printsHex_lowerDigit : PrintsHex CodePoint.lowerDigit where
  isHexDigit := CodePoint.isHexDigit_lowerDigit
  digitValue := CodePoint.digitValue_lowerDigit

theorem printsHex_upperDigit : PrintsHex CodePoint.upperDigit where
  isHexDigit := CodePoint.isHexDigit_upperDigit
  digitValue := CodePoint.digitValue_upperDigit

end Digits

/-- A text of so many hexadecimal digits. -/
structure Text.IsHex (width : Nat) (digits : Text) : Prop where
  length_eq : digits.length = width
  isHexDigit : ∀ point ∈ digits, point.isHexDigit = true

namespace Digits

namespace PrintsHex

variable {print : Nat → CodePoint} (prints : PrintsHex print)
include prints

theorem isHexDigit_of_mem_fixed {width number : Nat} {point : CodePoint}
    (member : point ∈ (fixed 16 width number).map print) : point.isHexDigit = true := by
  rcases List.mem_map.mp member with ⟨digit, inDigits, rfl⟩
  exact prints.isHexDigit (lt_of_mem_fixed (by omega) inDigits)

theorem isHex_fixed (width number : Nat) :
    Text.IsHex width ((fixed 16 width number).map print) where
  length_eq := by rw [List.length_map, length_fixed]
  isHexDigit _ member := prints.isHexDigit_of_mem_fixed member

theorem number_fixed (width number : Nat) (fits : number < Nat.pow 16 width) :
    Text.number 16 ((fixed 16 width number).map print) = number := by
  have values : ((fixed 16 width number).map print).map CodePoint.digitValue
      = fixed 16 width number := by
    rw [List.map_map]
    conv => rhs; rw [← List.map_id (fixed 16 width number)]
    exact List.map_congr_left fun digit member =>
      prints.digitValue (lt_of_mem_fixed (by omega) member)
  rw [Text.number, values, toNat_fixed fits]

end PrintsHex

end Digits

namespace Text

theorem isHexDigit_of_mem_lowerHex {number : Nat} {point : CodePoint}
    (member : point ∈ lowerHex number) : point.isHexDigit = true := by
  rcases List.mem_map.mp member with ⟨digit, inDigits, rfl⟩
  exact CodePoint.isHexDigit_lowerDigit (Digits.lt_of_mem_ofNat (by omega) inDigits)

theorem lowerHex_ne_nil (number : Nat) : lowerHex number ≠ [] := by
  intro empty
  exact Digits.ofNat_ne_nil 16 number (List.map_eq_nil_iff.mp empty)

theorem isDecimalDigit_of_mem_decimal {number : Nat} {point : CodePoint}
    (member : point ∈ decimal number) : point.isDecimalDigit = true := by
  rcases List.mem_map.mp member with ⟨digit, inDigits, rfl⟩
  exact CodePoint.isDecimalDigit_lowerDigit (Digits.lt_of_mem_ofNat (by omega) inDigits)

theorem decimal_ne_nil (number : Nat) : decimal number ≠ [] := by
  intro empty
  exact Digits.ofNat_ne_nil 10 number (List.map_eq_nil_iff.mp empty)

end Text

end Escaping
