import Escaping.Proofs.Codec.RoundTrip

/-!
Sequences of units. A string literal that is nothing but unit escapes reads as UTF-16 does, whatever
the case of the digits, and each code point read counts as one replacement.
-/

namespace Escaping

/-- A unit, and the places at which its digits are capitals. -/
structure SpelledUnit where
  unit : UInt16
  capital : Nat → Bool

namespace SpelledUnit

open StringLiteral

variable (spelled : SpelledUnit)

def print (place digit : Nat) : CodePoint :=
  if spelled.capital place then .upperDigit digit else .lowerDigit digit

def digits : Text := (Digits.fixed 16 4 spelled.unit.toNat).mapIdx spelled.print

def escape : Text := backslash :: .ofChar 'u' :: spelled.digits

theorem printsHex (place : Nat) : Digits.PrintsHex (spelled.print place) := by
  unfold print
  cases spelled.capital place with
  | true => exact Digits.printsHex_upperDigit
  | false => exact Digits.printsHex_lowerDigit

theorem isHex_digits : Text.IsHex 4 spelled.digits where
  length_eq := by rw [digits, List.length_mapIdx, Digits.length_fixed]
  isHexDigit point member := by
    rcases List.mem_mapIdx.mp member with ⟨place, inside, rfl⟩
    exact (spelled.printsHex place).isHexDigit
      (Digits.lt_of_mem_fixed (by omega) (List.getElem_mem inside))

theorem number_digits : Text.number 16 spelled.digits = spelled.unit.toNat := by
  have values : spelled.digits.map CodePoint.digitValue
      = Digits.fixed 16 4 spelled.unit.toNat := by
    apply List.ext_getElem
    · rw [List.length_map, digits, List.length_mapIdx]
    · intro place inMapped inside
      rw [List.getElem_map]
      simp only [digits, List.getElem_mapIdx]
      exact (spelled.printsHex place).digitValue
        (Digits.lt_of_mem_fixed (by omega) (List.getElem_mem inside))
  have fits : spelled.unit.toNat < Nat.pow 16 4 := spelled.unit.toNat_lt
  rw [Text.number, values, Digits.toNat_fixed fits]

/-- The code point of the unit on its own. -/
def point : CodePoint := .ofNat spelled.unit.toNat

theorem val_point : spelled.point.val = spelled.unit.toNat := by
  have small := spelled.unit.toNat_lt
  exact CodePoint.val_ofNat (by omega)

theorem lowUnit?_escape (rest : Text) :
    lowUnit? (spelled.escape ++ rest)
      = if spelled.point.isLowSurrogate = true then some spelled.unit.toNat else none := by
  have read := lowUnit?_of_isHex spelled.isHex_digits rest
  rw [spelled.number_digits] at read
  simp only [Utf16.isLowSurrogate_iff, spelled.val_point]
  exact read

section Scanning

variable {decoder : Decoder} (leads : decoder.lead = backslash)
  (readsUnits : ∀ digits, decoder.unescape (.ofChar 'u' :: digits) = readUnit digits)
include leads readsUnits

theorem scan_escape {rest : Text}
    (alone : spelled.point.isHighSurrogate = true → lowUnit? rest = none) :
    decoder.scan (spelled.escape ++ rest) = (decoder.scan rest).replace [spelled.point] := by
  rw [Utf16.isHighSurrogate_iff, spelled.val_point, ← spelled.number_digits] at alone
  have read := scan_alone leads readsUnits spelled.isHex_digits alone
  rwa [spelled.number_digits] at read

theorem scan_escape_pair {high low : SpelledUnit} (isHigh : high.point.isHighSurrogate = true)
    (isLow : low.point.isLowSurrogate = true) (rest : Text) :
    decoder.scan (high.escape ++ (low.escape ++ rest))
      = (decoder.scan rest).replace [.ofNat (Utf16.pair high.point.val low.point.val)] := by
  rw [Utf16.isHighSurrogate_iff, high.val_point, ← high.number_digits] at isHigh
  rw [Utf16.isLowSurrogate_iff, low.val_point, ← low.number_digits] at isLow
  have read := scan_pair leads readsUnits high.isHex_digits low.isHex_digits isHigh isLow rest
  rwa [high.number_digits, low.number_digits, ← high.val_point, ← low.val_point] at read

/-- Units are read one by one, and pairs of them at once. -/
theorem scan_escapes : ∀ sequence : List SpelledUnit,
    decoder.scan (sequence.flatMap escape)
      = ⟨Utf16.joinPairs (sequence.map point), (Utf16.joinPairs (sequence.map point)).length⟩
  | [] => Decoder.scan_nil
  | [last] => by
      have alone : decoder.scan (last.escape ++ []) = (decoder.scan []).replace [last.point] :=
        last.scan_escape leads readsUnits fun _ => rfl
      rw [List.flatMap_cons, List.flatMap_nil, alone, Decoder.scan_nil]
      rfl
  | first :: second :: later => by
      by_cases pair : first.point.isHighSurrogate = true ∧ second.point.isLowSurrogate = true
      · rw [List.flatMap_cons, List.flatMap_cons,
          scan_escape_pair leads readsUnits pair.1 pair.2, scan_escapes later,
          List.map_cons, List.map_cons, Utf16.joinPairs_pair pair.1 pair.2]
        rfl
      · -- The second unit may still open a pair, so it stays for the next step.
        have alone : first.point.isHighSurrogate = true →
            lowUnit? ((second :: later).flatMap escape) = none := by
          intro isHigh
          rw [List.flatMap_cons, lowUnit?_escape, if_neg fun isLow => pair ⟨isHigh, isLow⟩]
        have apart : Utf16.Apart first.point ((second :: later).map point) := by
          rintro _ ⟨⟩
          exact pair
        rw [List.flatMap_cons, first.scan_escape leads readsUnits alone,
          scan_escapes (second :: later), @List.map_cons _ _ point first,
          Utf16.joinPairs_cons apart]
        rfl

end Scanning

end SpelledUnit

namespace Scheme

variable {scheme : Scheme}

/-- A sequence of unit escapes is read as the text that the units stand for, and counted by its code
points. This is the one text without a pair to join that has these units. -/
theorem decodePass_units (member : scheme ∈ unitLiterals) (sequence : List SpelledUnit) :
    scheme.codec.decodePass (sequence.flatMap SpelledUnit.escape)
      = ⟨Utf16.read (sequence.map SpelledUnit.unit),
        (Utf16.read (sequence.map SpelledUnit.unit)).length⟩
    ∧ ∀ text : Text, Utf16.read (sequence.map SpelledUnit.unit) = text
      ↔ Utf16.Unpaired text
        ∧ text.flatMap Utf16.unitsOf = (sequence.map SpelledUnit.unit).map UInt16.toNat := by
  refine ⟨?_, fun text => Utf16.read_eq_iff⟩
  have points : Utf16.read (sequence.map SpelledUnit.unit)
      = Utf16.joinPairs (sequence.map SpelledUnit.point) := by
    rw [Utf16.read, List.map_map]
    rfl
  rw [points]
  simp only [unitLiterals, List.mem_cons, List.not_mem_nil, or_false] at member
  rcases member with rfl | rfl
  · rw [Codec.decodePass_eq_scan rfl]
    exact SpelledUnit.scan_escapes rfl JavaScript.unescape_unit sequence
  · rw [Codec.decodePass_eq_scan rfl]
    exact SpelledUnit.scan_escapes rfl Json.unescape_unit sequence

/-- Two high units before two low ones make one pair in the middle, and a high one at the end stays
alone. -/
theorem decodePass_units_nested :
    json ∈ unitLiterals
    ∧ json.codec.decodePass (Text.ofString "\\ud83d\\uD83D\\uDe00\\udE00\\ud83D")
      = ⟨[.ofNat 0xd83d, .ofNat 0x1f600, .ofNat 0xde00, .ofNat 0xd83d], 4⟩ := by
  have member : json ∈ unitLiterals := by decide
  have spelled : ([⟨0xd83d, fun _ => false⟩, ⟨0xd83d, fun _ => true⟩, ⟨0xde00, (· = 0)⟩,
        ⟨0xde00, (· = 1)⟩, ⟨0xd83d, (· = 3)⟩] : List SpelledUnit).flatMap SpelledUnit.escape
      = Text.ofString "\\ud83d\\uD83D\\uDe00\\udE00\\ud83D" := by decide +kernel
  refine ⟨member, ?_⟩
  rw [← spelled, (decodePass_units member _).1]
  decide +kernel

end Scheme

end Escaping
