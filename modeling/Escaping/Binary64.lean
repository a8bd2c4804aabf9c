import Escaping.Text.Digits

/-!
Binary floating-point numbers of 64 bits, as exact values. A decimal is rounded to the nearest
number, a tie going to the even significand. A number is printed with the fewest digits that round
back to it, and of those digits with the nearest.
-/

namespace Escaping

/-- A finite number is a significand of at most 53 bits times a power of two; the significand has
all of these bits unless the exponent is the least one. -/
inductive Binary64 where
  | finite (negative : Bool) (significand : Nat) (exponent : Int)
  | infinite (negative : Bool)
  | notANumber
deriving DecidableEq, Repr

namespace Binary64

def leastExponent : Int := -1074

def greatestExponent : Int := 971

def fullSignificand : Nat := 0x10000000000000

def significandBound : Nat := 0x20000000000000

/-- A quotient rounded to the nearest integer, a tie to the even one. -/
def roundedQuotient (numerator denominator : Nat) : Nat :=
  let quotient := numerator / denominator
  let twice := 2 * (numerator % denominator)
  if twice < denominator then quotient
  else if denominator < twice then quotient + 1
  else quotient + quotient % 2

/-- A natural number over a power of a base, or times it, as numerator and denominator. -/
def scaled (numerator base : Nat) : Int → Nat × Nat
  | .ofNat power => (numerator * Nat.pow base power, 1)
  | .negSucc below => (numerator, Nat.pow base (below + 1))

/-- The exponent at which a positive quotient has a significand of 53 bits, or the least one. -/
def exponentOf (numerator denominator : Nat) : Int :=
  let guess : Int := (Nat.log2 numerator : Int) - Nat.log2 denominator - 52
  let (above, below) := scaled numerator 2 (-guess)
  let exponent := if above < fullSignificand * (below * denominator) then guess - 1 else guess
  max exponent leastExponent

def ofQuotient (negative : Bool) (numerator denominator : Nat) : Binary64 :=
  if numerator = 0 then .finite negative 0 leastExponent
  else
    let exponent := exponentOf numerator denominator
    let (above, below) := scaled numerator 2 (-exponent)
    let significand := roundedQuotient above (below * denominator)
    let (significand, exponent) :=
      if significand = significandBound then (fullSignificand, exponent + 1)
      else (significand, exponent)
    if greatestExponent < exponent then .infinite negative
    else .finite negative significand exponent

/-- The number nearest to `digits` times a power of ten. Magnitudes far outside the range are
decided by their length alone. -/
def ofDecimal (negative : Bool) (digits : Nat) (power : Int) : Binary64 :=
  let length : Int := (Digits.ofNat 10 digits).length
  if digits = 0 ∨ length + power < -330 then .finite negative 0 leastExponent
  else if 310 < length + power then .infinite negative
  else
    let (numerator, denominator) := scaled digits 10 power
    ofQuotient negative numerator denominator

/-- Digits and the power of ten that they are multiplied by. -/
structure Decimal where
  digits : Nat
  power : Int
deriving DecidableEq, Repr

/-- The multiples of a quarter of the last bit between which every number rounds to a finite one,
and that number itself, over a common denominator. -/
structure Interval where
  low : Nat
  value : Nat
  high : Nat
  denominator : Nat
  /-- The ends belong to the interval where the significand is even. -/
  closed : Bool

def interval (significand : Nat) (exponent : Int) : Interval :=
  let below := if significand = fullSignificand ∧ leastExponent < exponent then 1 else 2
  let (unit, denominator) := scaled 1 2 (exponent - 2)
  ⟨(4 * significand - below) * unit, 4 * significand * unit, (4 * significand + 2) * unit,
    denominator, significand % 2 = 0⟩

def Interval.holds (interval : Interval) (digits unit scale : Nat) : Bool :=
  let point := digits * unit * interval.denominator
  if interval.closed then interval.low * scale ≤ point && point ≤ interval.high * scale
  else interval.low * scale < point && point < interval.high * scale

/-- How many decimal digits stand before the point of a positive value; negative where zeros
follow the point. -/
def Interval.magnitude (interval : Interval) : Int :=
  if interval.denominator ≤ interval.value then
    (Digits.ofNat 10 (interval.value / interval.denominator)).length
  else 1 - ((Digits.ofNat 10 ((interval.denominator - 1) / interval.value)).length : Int)

/-- The decimal with a count of digits that lies in an interval, the nearer one of two and the even
one where both are equally near. -/
def Interval.decimal? (interval : Interval) (count : Nat) : Option Decimal :=
  let power := interval.magnitude - count
  let (unit, scale) := scaled 1 10 power
  let whole := interval.denominator * unit
  let lower := interval.value * scale / whole
  let remainder := interval.value * scale % whole
  let upward := whole < 2 * remainder ∨ (whole = 2 * remainder ∧ lower % 2 = 1)
  let nearer := if upward then lower + 1 else lower
  let further := if upward then lower else lower + 1
  if interval.holds nearer unit scale then some ⟨nearer, power⟩
  else if interval.holds further unit scale then some ⟨further, power⟩
  else none

def Interval.shortest (interval : Interval) : Decimal :=
  ((List.range 17).findSome? fun count => interval.decimal? (count + 1)).getD ⟨0, 0⟩

/-- The digits of a decimal without zeros at the end, and how many stand before the point. -/
def Decimal.layout (decimal : Decimal) : Text × Int :=
  let digits := Text.decimal decimal.digits
  ((digits.reverse.dropWhile fun digit => digit.val = 0x30).reverse, digits.length + decimal.power)

def zeros (count : Nat) : Text := List.replicate count '0'

/-- Numbers with at most sixteen digits before the point, or at most three zeros right after it,
are written out; others get an exponent of at least two digits. -/
def Decimal.written (decimal : Decimal) : Text :=
  let (digits, point) := decimal.layout
  if -4 < point ∧ point ≤ 16 then
    if point ≤ 0 then Text.ofString "0." ++ zeros (-point).toNat ++ digits
    else
      let whole := digits.take point.toNat
      let fraction := digits.drop point.toNat
      whole ++ zeros (point.toNat - whole.length) ++ Text.ofString "."
        ++ (if fraction.isEmpty then zeros 1 else fraction)
  else
    let exponent := point - 1
    let amount := Text.decimal exponent.natAbs
    digits.take 1 ++ (if digits.length = 1 then [] else Text.ofString "." ++ digits.drop 1)
      ++ Text.ofString (if exponent < 0 then "e-" else "e+") ++ zeros (2 - amount.length) ++ amount

def sign (negative : Bool) : Text := Text.ofString (if negative then "-" else "")

def written : Binary64 → Text
  | .finite negative significand exponent =>
      sign negative
        ++ if significand = 0 then Text.ofString "0.0"
          else (interval significand exponent).shortest.written
  | .infinite negative => sign negative ++ Text.ofString "inf"
  | .notANumber => Text.ofString "nan"

def isZero : Binary64 → Bool
  | .finite _ significand _ => significand = 0
  | _ => false

def isWithin (first last : Nat) : Binary64 → Bool
  | .finite negative significand exponent =>
      let (numerator, denominator) := scaled significand 2 exponent
      (!negative || significand = 0) && first * denominator ≤ numerator
        && numerator ≤ last * denominator
  | _ => false

def spanDigits (text : Text) : Text × Text :=
  (text.takeWhile CodePoint.isDecimalDigit, text.dropWhile CodePoint.isDecimalDigit)

def readSign : Text → Bool × Text
  | head :: tail =>
      if head = '-' then (true, tail) else if head = '+' then (false, tail) else (false, head :: tail)
  | [] => (false, [])

def readExponent? : Text → Option Int
  | [] => some 0
  | letter :: rest =>
      let (negative, unsigned) := readSign rest
      let (digits, remaining) := spanDigits unsigned
      if (letter = 'e' ∨ letter = 'E') ∧ !digits.isEmpty ∧ remaining.isEmpty then
        some (if negative then -(Text.number 10 digits : Int) else Text.number 10 digits)
      else none

def readFraction : Text → Text × Text
  | head :: tail => if head = '.' then spanDigits tail else ([], head :: tail)
  | [] => ([], [])

def readMagnitude? (negative : Bool) (text : Text) : Option Binary64 :=
  let (whole, afterWhole) := spanDigits text
  let (fraction, afterFraction) := readFraction afterWhole
  if whole.isEmpty ∧ fraction.isEmpty then none
  else (readExponent? afterFraction).map fun exponent =>
    ofDecimal negative (Text.number 10 (whole ++ fraction)) (exponent - fraction.length)

def read? (text : Text) : Option Binary64 :=
  let (negative, magnitude) := readSign text
  let name := Text.lowerAscii magnitude
  if name = Text.ofString "inf" ∨ name = Text.ofString "infinity" then some (.infinite negative)
  else if name = Text.ofString "nan" then some .notANumber
  else readMagnitude? negative magnitude

end Binary64

end Escaping
