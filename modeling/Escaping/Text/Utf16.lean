import Escaping.Text.Digits

/-!
Surrogate pairs: the two UTF-16 units that stand for a code point past U+FFFF. Splitting and
joining are stated on integers, where they are defined whether or not the numbers are in range.
-/

namespace Escaping

namespace Utf16

def highUnit (number : Nat) : Nat := 0xd800 + (number - 0x10000) / 0x400

def lowUnit (number : Nat) : Nat := 0xdc00 + (number - 0x10000) % 0x400

def pair (high low : Nat) : Nat := 0x10000 + (high - 0xd800) * 0x400 + (low - 0xdc00)

theorem pair_units {number : Nat} (supplementary : 0x10000 ≤ number) :
    pair (highUnit number) (lowUnit number) = number := by
  unfold pair highUnit lowUnit
  omega

/-- The bits of a natural number set in an integer in two's complement. -/
def withBits (bits : Nat) : Int → Int
  | .ofNat number => .ofNat (bits ||| number)
  | .negSucc below => .negSucc (below - (below &&& bits))

/-- The halves of an integer as a pair of units: what is above the low ten bits goes to the high
unit, the low ten bits go to the low unit. -/
def split (number : Int) : Int × Int :=
  let offset := number - 0x10000
  (withBits 0xd800 (offset.fdiv 0x400), 0xdc00 + offset.fmod 0x400)

def join (high low : Int) : Int := 0x10000 + (high - 0xd800) * 0x400 + (low - 0xdc00)

def isSurrogate (number : Int) : Bool := 0xd800 ≤ number && number ≤ 0xdfff

/-- Joins every high surrogate that is directly followed by a low one. -/
def joinPairs : Text → Text
  | high :: low :: rest =>
      if high.isHighSurrogate && low.isLowSurrogate then
        .ofNat (pair high.val low.val) :: joinPairs rest
      else high :: joinPairs (low :: rest)
  | [last] => [last]
  | [] => []

end Utf16

end Escaping
