/-!
Code points, the items a text is made of. Surrogates are legal code points here: an escape may
name half of a pair, and a text keeps such a half until an encoder decides what to do with it.
-/

namespace Escaping

/-- A number of the code space, surrogates included. -/
structure CodePoint where
  val : Nat
  inRange : val < 0x110000
deriving DecidableEq

namespace CodePoint

/-- U+FFFD, which stands for whatever cannot be represented. -/
def replacement : CodePoint := ⟨0xfffd, by decide⟩

/-- The code point of a number; a number outside the code space gives the replacement character. -/
def ofNat (number : Nat) : CodePoint :=
  if inside : number < 0x110000 then ⟨number, inside⟩ else replacement

def ofChar (char : Char) : CodePoint := ofNat char.toNat

instance : Coe Char CodePoint := ⟨ofChar⟩

instance : Inhabited CodePoint := ⟨replacement⟩

instance : Repr CodePoint where
  reprPrec point _ := repr point.val

@[ext] theorem ext {left right : CodePoint} (equal : left.val = right.val) : left = right := by
  cases left
  cases right
  cases equal
  rfl

theorem val_ofNat {number : Nat} (inside : number < 0x110000) : (ofNat number).val = number := by
  simp [ofNat, inside]

@[simp] theorem ofNat_val (point : CodePoint) : ofNat point.val = point := by
  simp [ofNat, point.inRange]

def isHighSurrogate (point : CodePoint) : Bool := 0xd800 ≤ point.val && point.val ≤ 0xdbff

def isLowSurrogate (point : CodePoint) : Bool := 0xdc00 ≤ point.val && point.val ≤ 0xdfff

def isSurrogate (point : CodePoint) : Bool := 0xd800 ≤ point.val && point.val ≤ 0xdfff

theorem isSurrogate_eq (point : CodePoint) :
    point.isSurrogate = (point.isHighSurrogate || point.isLowSurrogate) := by
  rw [Bool.eq_iff_iff]
  simp [isSurrogate, isHighSurrogate, isLowSurrogate]
  omega

def isDecimalDigit (point : CodePoint) : Bool := 0x30 ≤ point.val && point.val ≤ 0x39

def isLetter (point : CodePoint) : Bool :=
  (0x41 ≤ point.val && point.val ≤ 0x5a) || (0x61 ≤ point.val && point.val ≤ 0x7a)

/-- ASCII letters and digits, which nearly every target language reads as they stand. -/
def isAlphanumeric (point : CodePoint) : Bool := point.isDecimalDigit || point.isLetter

def isHexDigit (point : CodePoint) : Bool :=
  point.isDecimalDigit || (0x41 ≤ point.val && point.val ≤ 0x46)
    || (0x61 ≤ point.val && point.val ≤ 0x66)

/-- The worth of an ASCII digit or letter as a digit, letters counting on from ten. -/
def digitValue (point : CodePoint) : Nat :=
  if point.val ≤ 0x39 then point.val - 0x30
  else if point.val ≤ 0x5a then point.val - 0x41 + 10
  else point.val - 0x61 + 10

def lowerDigit (digit : Nat) : CodePoint :=
  if digit < 10 then ofNat (0x30 + digit) else ofNat (0x61 + digit - 10)

def upperDigit (digit : Nat) : CodePoint :=
  if digit < 10 then ofNat (0x30 + digit) else ofNat (0x41 + digit - 10)

theorem digitValue_lowerDigit {digit : Nat} (small : digit < 16) :
    (lowerDigit digit).digitValue = digit := by
  have all : ∀ each ∈ List.range 16, (lowerDigit each).digitValue = each := by decide
  exact all digit (List.mem_range.mpr small)

theorem digitValue_upperDigit {digit : Nat} (small : digit < 16) :
    (upperDigit digit).digitValue = digit := by
  have all : ∀ each ∈ List.range 16, (upperDigit each).digitValue = each := by decide
  exact all digit (List.mem_range.mpr small)

theorem isHexDigit_lowerDigit {digit : Nat} (small : digit < 16) :
    (lowerDigit digit).isHexDigit = true := by
  have all : ∀ each ∈ List.range 16, (lowerDigit each).isHexDigit = true := by decide
  exact all digit (List.mem_range.mpr small)

theorem isHexDigit_upperDigit {digit : Nat} (small : digit < 16) :
    (upperDigit digit).isHexDigit = true := by
  have all : ∀ each ∈ List.range 16, (upperDigit each).isHexDigit = true := by decide
  exact all digit (List.mem_range.mpr small)

/-- The code point a numeric reference stands for: zero, surrogates and numbers past the code
space are replaced. -/
def ofReference (number : Nat) : CodePoint :=
  if number = 0 ∨ (0xd800 ≤ number ∧ number ≤ 0xdfff) then replacement else ofNat number

/-- The code point an integer stands for as a reference; a negative one stands for none. -/
def ofInteger : Int → CodePoint
  | .ofNat number => ofReference number
  | .negSucc _ => replacement

end CodePoint

end Escaping
