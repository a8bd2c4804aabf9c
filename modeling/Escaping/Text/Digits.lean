import Escaping.Text.Basic

/-!
Positional digits. A number is read back from its digits in either form: the shortest one, and
the one of fixed width.
-/

namespace Escaping

namespace Digits

/-- The digits of a number, most significant first and without leading zeros; zero has one. -/
def ofNat (base number : Nat) : List Nat :=
  if number < base ∨ base < 2 then [number] else ofNat base (number / base) ++ [number % base]
termination_by number
decreasing_by exact Nat.div_lt_self (by omega) (by omega)

/-- The last `width` digits of a number, most significant first. -/
def fixed (base : Nat) : Nat → Nat → List Nat
  | 0, _ => []
  | width + 1, number => fixed base width (number / base) ++ [number % base]

def toNat (base : Nat) (digits : List Nat) : Nat :=
  digits.foldl (fun total digit => total * base + digit) 0

theorem toNat_append_singleton (base : Nat) (digits : List Nat) (last : Nat) :
    toNat base (digits ++ [last]) = toNat base digits * base + last := by
  simp [toNat]

theorem toNat_ofNat {base : Nat} (large : 2 ≤ base) (number : Nat) :
    toNat base (ofNat base number) = number := by
  induction number using Nat.strongRecOn with
  | ind number induction =>
      rw [ofNat]
      split
      · simp [toNat]
      · rw [toNat_append_singleton, induction _ (Nat.div_lt_self (by omega) (by omega))]
        exact Nat.div_add_mod' number base

theorem lt_of_mem_ofNat {base : Nat} (large : 2 ≤ base) {number digit : Nat}
    (member : digit ∈ ofNat base number) : digit < base := by
  induction number using Nat.strongRecOn with
  | ind number induction =>
      rw [ofNat] at member
      split at member
      · simp at member
        omega
      · rcases List.mem_append.mp member with earlier | last
        · exact induction _ (Nat.div_lt_self (by omega) (by omega)) earlier
        · simp at last
          exact last ▸ Nat.mod_lt number (by omega)

theorem ofNat_ne_nil (base number : Nat) : ofNat base number ≠ [] := by
  rw [ofNat]
  split <;> simp

theorem toNat_fixed {base width number : Nat} (fits : number < Nat.pow base width) :
    toNat base (fixed base width number) = number := by
  induction width generalizing number with
  | zero => exact (Nat.lt_one_iff.mp fits).symm
  | succ width induction =>
      have quotient : number / base < Nat.pow base width :=
        Nat.div_lt_of_lt_mul (Nat.mul_comm base (Nat.pow base width) ▸ fits)
      rw [fixed, toNat_append_singleton, induction quotient]
      exact Nat.div_add_mod' number base

theorem length_fixed (base width number : Nat) : (fixed base width number).length = width := by
  induction width generalizing number with
  | zero => rfl
  | succ width induction => simp [fixed, induction]

theorem lt_of_mem_fixed {base : Nat} (positive : 0 < base) {width number digit : Nat}
    (member : digit ∈ fixed base width number) : digit < base := by
  induction width generalizing number with
  | zero => simp [fixed] at member
  | succ width induction =>
      rcases List.mem_append.mp member with earlier | last
      · exact induction earlier
      · simp at last
        exact last ▸ Nat.mod_lt number positive

end Digits

namespace Text

def decimal (number : Nat) : Text := (Digits.ofNat 10 number).map CodePoint.lowerDigit

def integer : Int → Text
  | .ofNat number => decimal number
  | .negSucc below => CodePoint.ofChar '-' :: decimal (below + 1)

/-- A number in hexadecimal with lower-case letters and no leading zeros. -/
def lowerHex (number : Nat) : Text := (Digits.ofNat 16 number).map CodePoint.lowerDigit

/-- The last `width` hexadecimal digits of a number, letters in lower case. -/
def lowerHexFixed (width number : Nat) : Text :=
  (Digits.fixed 16 width number).map CodePoint.lowerDigit

/-- The last `width` hexadecimal digits of a number, letters in upper case. -/
def upperHexFixed (width number : Nat) : Text :=
  (Digits.fixed 16 width number).map CodePoint.upperDigit

def number (base : Nat) (digits : Text) : Nat :=
  Digits.toNat base (digits.map CodePoint.digitValue)

private theorem map_digitValue {print : Nat → CodePoint} {digits : List Nat}
    (reads : ∀ {digit : Nat}, digit < 16 → (print digit).digitValue = digit)
    (small : ∀ digit ∈ digits, digit < 16) :
    (digits.map print).map CodePoint.digitValue = digits := by
  rw [List.map_map]
  conv => rhs; rw [← List.map_id digits]
  exact List.map_congr_left fun digit member => by simpa using reads (small digit member)

theorem number_decimal (value : Nat) : number 10 (decimal value) = value := by
  rw [number, decimal, map_digitValue CodePoint.digitValue_lowerDigit]
  · exact Digits.toNat_ofNat (by omega) value
  · exact fun digit member =>
      Nat.lt_trans (Digits.lt_of_mem_ofNat (by omega) member) (by omega)

theorem number_lowerHex (value : Nat) : number 16 (lowerHex value) = value := by
  rw [number, lowerHex, map_digitValue CodePoint.digitValue_lowerDigit]
  · exact Digits.toNat_ofNat (by omega) value
  · exact fun digit member => Digits.lt_of_mem_ofNat (by omega) member

end Text

end Escaping
