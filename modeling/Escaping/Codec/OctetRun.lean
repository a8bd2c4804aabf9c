import Escaping.Codec.Basic
import Escaping.Text.Utf8

/-!
Runs of escaped octets. A lead and two hexadecimal digits write one octet, and adjacent octets
are read together as UTF-8, so a character may come from several escapes of one run.
-/

namespace Escaping

namespace OctetRun

def octet? (high low : CodePoint) : Option UInt8 :=
  if high.isHexDigit ∧ low.isHexDigit then some (.ofNat (Text.number 16 [high, low])) else none

/-- The octets of a maximal run, from the text after its first lead. -/
def read (lead : CodePoint) : Text → Octets
  | high :: low :: rest =>
      match octet? high low with
      | none => []
      | some octet =>
          octet :: match rest with
            | next :: tail => if next = lead then read lead tail else []
            | [] => []
  | _ => []

/-- Reads a run as UTF-8. Every octet takes three code points, the first one two after the
lead. -/
def unescape (lead : CodePoint) (text : Text) : Option Unescaped :=
  let octets := read lead text
  if octets.isEmpty then none else some ⟨Utf8.decode octets, 3 * octets.length - 1⟩

def escape (lead : CodePoint) (digit : Nat → CodePoint) (point : CodePoint) : Text :=
  (Utf8.ofCodePoint point).flatMap fun octet =>
    lead :: (Digits.fixed 16 2 octet.toNat).map digit

end OctetRun

end Escaping
