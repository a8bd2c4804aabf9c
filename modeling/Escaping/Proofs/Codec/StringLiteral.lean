import Escaping.Codec.JavaScript
import Escaping.Codec.Json
import Escaping.Proofs.Codec.Scanning
import Escaping.Proofs.Text.Digits
import Escaping.Proofs.Text.Utf16

/-!
String literals read back. A code point is written in one of four forms, and all but the unit of a
high surrogate read back whatever follows them; that one joins with the unit of a low surrogate. So
reading undoes writing up to the joining of surrogates that stand next to each other.
-/

namespace Escaping

namespace StringLiteral

variable {print : Nat → CodePoint}

theorem fixedHex?_of_isHex {width : Nat} {digits : Text} (hexadecimal : Text.IsHex width digits)
    (rest : Text) : fixedHex? width (digits ++ rest) = some (Text.number 16 digits) := by
  have taken : (digits ++ rest).take width = digits := List.take_left' hexadecimal.length_eq
  have all : digits.all CodePoint.isHexDigit = true :=
    List.all_eq_true.mpr hexadecimal.isHexDigit
  rw [fixedHex?, taken, if_pos ⟨hexadecimal.length_eq, all⟩]

theorem fixedHex?_eq_some_iff {width number : Nat} {text : Text} :
    fixedHex? width text = some number
      ↔ ∃ digits rest, text = digits ++ rest ∧ Text.IsHex width digits
        ∧ number = Text.number 16 digits := by
  constructor
  · intro read
    simp only [fixedHex?] at read
    split at read
    next digits =>
      cases read
      exact ⟨_, _, (List.take_append_drop width text).symm,
        ⟨digits.1, List.all_eq_true.mp digits.2⟩, rfl⟩
    next => cases read
  · rintro ⟨digits, rest, rfl, hexadecimal, rfl⟩
    exact fixedHex?_of_isHex hexadecimal rest

theorem fixedHex?_append (prints : Digits.PrintsHex print) (width number : Nat)
    (fits : number < Nat.pow 16 width) (rest : Text) :
    fixedHex? width ((Digits.fixed 16 width number).map print ++ rest) = some number := by
  rw [fixedHex?_of_isHex (prints.isHex_fixed width number), prints.number_fixed width number fits]

section Units

variable {digits : Text} (hexadecimal : Text.IsHex 4 digits)
include hexadecimal

theorem lowUnit?_of_isHex (rest : Text) :
    lowUnit? (backslash :: .ofChar 'u' :: (digits ++ rest))
      = if 0xdc00 ≤ Text.number 16 digits ∧ Text.number 16 digits ≤ 0xdfff then
          some (Text.number 16 digits)
        else none := by
  rw [lowUnit?, if_pos ⟨rfl, rfl⟩, fixedHex?_of_isHex hexadecimal, Option.filter_some]
  simp only [Bool.and_eq_true, decide_eq_true_eq]

/-- A unit that no low surrogate follows reads as a code point of its own. -/
theorem readUnit_of_alone {rest : Text}
    (alone : 0xd800 ≤ Text.number 16 digits ∧ Text.number 16 digits ≤ 0xdbff →
      lowUnit? rest = none) :
    readUnit (digits ++ rest) = some ⟨[.ofNat (Text.number 16 digits)], 5⟩ := by
  rw [readUnit, fixedHex?_of_isHex hexadecimal, List.drop_left' hexadecimal.length_eq,
    Option.map_some]
  by_cases high : 0xd800 ≤ Text.number 16 digits ∧ Text.number 16 digits ≤ 0xdbff
  · rw [if_pos high, alone high]
  · rw [if_neg high]

/-- A high unit and a low one read as the code point of the pair. -/
theorem readUnit_of_pair (isHigh : 0xd800 ≤ Text.number 16 digits ∧ Text.number 16 digits ≤ 0xdbff)
    {rest : Text} {low : Nat} (follows : lowUnit? rest = some low) :
    readUnit (digits ++ rest) = some ⟨[.ofNat (Utf16.pair (Text.number 16 digits) low)], 11⟩ := by
  rw [readUnit, fixedHex?_of_isHex hexadecimal, List.drop_left' hexadecimal.length_eq,
    Option.map_some, if_pos isHigh, follows]

end Units

theorem lowUnit?_unitEscape (prints : Digits.PrintsHex print) {unit : Nat} (fits : unit < 0x10000)
    (rest : Text) :
    lowUnit? (unitEscape print unit ++ rest)
      = if 0xdc00 ≤ unit ∧ unit ≤ 0xdfff then some unit else none := by
  have read := lowUnit?_of_isHex (prints.isHex_fixed 4 unit) rest
  rwa [prints.number_fixed 4 unit (by simpa using fits)] at read

/-- The forms in which a literal writes a code point. -/
inductive Written (decoder : Decoder) (print : Nat → CodePoint) (point : CodePoint) : Text → Prop
  | raw (different : point ≠ backslash) (scalar : point.isSurrogate = false) :
      Written decoder print point [point]
  | short {letter : CodePoint} {others : Text} (noUnit : letter ≠ .ofChar 'u')
      (scalar : point.isSurrogate = false)
      (reads : decoder.Reads (backslash :: letter :: others) [point]) :
      Written decoder print point (backslash :: letter :: others)
  | unit (fits : point.val < 0x10000) :
      Written decoder print point (unitEscape print point.val)
  | pair (supplementary : 0x10000 ≤ point.val) :
      Written decoder print point
        (unitEscape print (Utf16.highUnit point.val) ++ unitEscape print (Utf16.lowUnit point.val))

theorem unitEscape_append (print : Nat → CodePoint) (unit : Nat) (rest : Text) :
    unitEscape print unit ++ rest
      = backslash :: .ofChar 'u' :: ((Digits.fixed 16 4 unit).map print ++ rest) := rfl

theorem mem_unitEscape (prints : Digits.PrintsHex print) {unit : Nat} {each : CodePoint}
    (member : each ∈ unitEscape print unit) : each = backslash ∨ each.isAlphanumeric = true := by
  rcases List.mem_cons.mp member with rfl | rest
  · exact .inl rfl
  · rcases List.mem_cons.mp rest with rfl | digit
    · exact .inr (by decide)
    · exact .inr (CodePoint.isAlphanumeric_of_isHexDigit (prints.isHexDigit_of_mem_fixed digit))

section Reading

variable {decoder : Decoder} {point : CodePoint} {escape : Text}

theorem Written.lowUnit?_append (prints : Digits.PrintsHex print)
    (written : Written decoder print point escape) (notLow : point.isLowSurrogate = false)
    (rest : Text) : lowUnit? (escape ++ rest) = none := by
  cases written with
  | raw different scalar =>
      cases rest with
      | nil => rfl
      | cons next others => exact if_neg fun both => different both.1
  | short noUnit scalar reads => exact if_neg fun both => noUnit both.2
  | unit fits =>
      have outside : ¬(0xdc00 ≤ point.val ∧ point.val ≤ 0xdfff) := by
        simpa [CodePoint.isLowSurrogate] using notLow
      rw [lowUnit?_unitEscape prints fits, if_neg outside]
  | pair supplementary =>
      have bounds := Utf16.highUnit_bounds point.inRange
      rw [List.append_assoc, lowUnit?_unitEscape prints (by omega), if_neg (by omega)]

theorem Written.eq_unit (written : Written decoder print point escape)
    (surrogate : point.isSurrogate = true) : escape = unitEscape print point.val := by
  cases written with
  | raw different scalar => simp [scalar] at surrogate
  | short noUnit scalar reads => simp [scalar] at surrogate
  | unit fits => rfl
  | pair supplementary =>
      simp only [CodePoint.isSurrogate, Bool.and_eq_true, decide_eq_true_eq] at surrogate
      omega

/-- Whatever is written for a code point other than itself is read as something. -/
theorem Written.reads (prints : Digits.PrintsHex print) (leads : decoder.lead = backslash)
    (readsUnits : ∀ digits, decoder.unescape (.ofChar 'u' :: digits) = readUnit digits)
    (written : Written decoder print point escape) (notRaw : escape ≠ [point]) :
    ∃ body, escape = decoder.lead :: body ∧ ∀ rest, decoder.unescape (body ++ rest) ≠ none := by
  have readsUnit : ∀ {unit : Nat}, unit < 0x10000 → ∀ rest,
      decoder.unescape (.ofChar 'u' :: ((Digits.fixed 16 4 unit).map print ++ rest)) ≠ none := by
    intro unit fits rest
    have digits := fixedHex?_append prints 4 unit (by simpa using fits) rest
    rw [readsUnits, readUnit, digits, Option.map_some]
    exact Option.some_ne_none _
  cases written with
  | raw different scalar => exact absurd rfl notRaw
  | short noUnit scalar reads =>
      rcases reads with ⟨body, starts, matched⟩
      refine ⟨body, starts, fun rest => ?_⟩
      rw [matched]
      exact Option.some_ne_none _
  | unit fits =>
      refine ⟨.ofChar 'u' :: (Digits.fixed 16 4 point.val).map print, ?_, readsUnit fits⟩
      rw [leads]
      rfl
  | pair supplementary =>
      have isHigh := Utf16.highUnit_bounds point.inRange
      have fits : Utf16.highUnit point.val < 0x10000 := by omega
      refine ⟨.ofChar 'u' :: ((Digits.fixed 16 4 (Utf16.highUnit point.val)).map print
        ++ unitEscape print (Utf16.lowUnit point.val)), ?_, fun rest => ?_⟩
      · rw [leads]
        rfl
      · rw [List.cons_append, List.append_assoc]
        exact readsUnit fits _

variable (leads : decoder.lead = backslash)
  (readsUnits : ∀ digits, decoder.unescape (.ofChar 'u' :: digits) = readUnit digits)
include leads readsUnits

theorem scan_unit {digits : Text} {found : Unescaped} (read : readUnit digits = some found) :
    decoder.scan (backslash :: .ofChar 'u' :: digits)
      = (decoder.scan ((.ofChar 'u' :: digits).drop found.taken)).replace found.text := by
  rw [← leads]
  apply Decoder.scan_lead_of_some
  rw [readsUnits, read]

/-- A unit that no low surrogate follows is replaced by its code point. -/
theorem scan_alone {digits rest : Text} (hexadecimal : Text.IsHex 4 digits)
    (alone : 0xd800 ≤ Text.number 16 digits ∧ Text.number 16 digits ≤ 0xdbff →
      lowUnit? rest = none) :
    decoder.scan (backslash :: .ofChar 'u' :: (digits ++ rest))
      = (decoder.scan rest).replace [.ofNat (Text.number 16 digits)] := by
  rw [scan_unit leads readsUnits (readUnit_of_alone hexadecimal alone), List.drop_succ_cons,
    List.drop_left' hexadecimal.length_eq]

/-- Two units that stand for a pair are replaced by one code point. -/
theorem scan_pair {high low : Text} (highDigits : Text.IsHex 4 high) (lowDigits : Text.IsHex 4 low)
    (isHigh : 0xd800 ≤ Text.number 16 high ∧ Text.number 16 high ≤ 0xdbff)
    (isLow : 0xdc00 ≤ Text.number 16 low ∧ Text.number 16 low ≤ 0xdfff) (rest : Text) :
    decoder.scan (backslash :: .ofChar 'u' :: (high
        ++ (backslash :: .ofChar 'u' :: (low ++ rest))))
      = (decoder.scan rest).replace
        [.ofNat (Utf16.pair (Text.number 16 high) (Text.number 16 low))] := by
  have follows := (lowUnit?_of_isHex lowDigits rest).trans (if_pos isLow)
  have whole : .ofChar 'u' :: (high ++ (backslash :: .ofChar 'u' :: (low ++ rest)))
      = .ofChar 'u' :: (high ++ (backslash :: .ofChar 'u' :: low)) ++ rest := by simp
  have width : (.ofChar 'u' :: (high ++ (backslash :: .ofChar 'u' :: low))).length = 11 := by
    simp only [List.length_cons, List.length_append, highDigits.length_eq, lowDigits.length_eq]
  rw [scan_unit leads readsUnits (readUnit_of_pair highDigits isHigh follows), whole,
    List.drop_left' width]

/-- Two units that stand for a pair are read as one code point. -/
theorem scan_unit_pair (prints : Digits.PrintsHex print) {high low : Nat}
    (isHigh : 0xd800 ≤ high ∧ high ≤ 0xdbff) (isLow : 0xdc00 ≤ low ∧ low ≤ 0xdfff) (rest : Text) :
    (decoder.scan (unitEscape print high ++ (unitEscape print low ++ rest))).text
      = .ofNat (Utf16.pair high low) :: (decoder.scan rest).text := by
  have highNumber := prints.number_fixed 4 high (by simp; omega)
  have lowNumber := prints.number_fixed 4 low (by simp; omega)
  rw [← highNumber] at isHigh
  rw [← lowNumber] at isLow
  have read := scan_pair leads readsUnits (prints.isHex_fixed 4 high) (prints.isHex_fixed 4 low)
    isHigh isLow rest
  rw [highNumber, lowNumber] at read
  rw [unitEscape_append, unitEscape_append, read]
  rfl

/-- A written code point is read on its own, unless it is a high surrogate before a low one. -/
theorem Written.scan_append (prints : Digits.PrintsHex print)
    (written : Written decoder print point escape) {rest : Text}
    (alone : point.isHighSurrogate = true → lowUnit? rest = none) :
    (decoder.scan (escape ++ rest)).text = point :: (decoder.scan rest).text := by
  have high : 0xd800 ≤ point.val ∧ point.val ≤ 0xdbff → lowUnit? rest = none := by
    simpa [CodePoint.isHighSurrogate] using alone
  cases written with
  | raw different scalar =>
      rw [List.singleton_append, Decoder.scan_cons_of_ne (leads ▸ different)]
      rfl
  | short noUnit scalar reads =>
      rw [reads.scan_append]
      rfl
  | unit fits =>
      have number := prints.number_fixed 4 point.val (by simpa using fits)
      have read := scan_alone leads readsUnits (prints.isHex_fixed 4 point.val)
        (number.symm ▸ high)
      rw [unitEscape_append, read, number, CodePoint.ofNat_val]
      rfl
  | pair supplementary =>
      rw [List.append_assoc, scan_unit_pair leads readsUnits prints
        (Utf16.highUnit_bounds point.inRange) (Utf16.lowUnit_bounds point.val),
        Utf16.pair_units supplementary, CodePoint.ofNat_val]

/-- Reading what was written gives the text, neighbouring surrogates joined. -/
theorem scan_flatMap (prints : Digits.PrintsHex print) {write : CodePoint → Text} {text : Text}
    (each : ∀ point ∈ text, Written decoder print point (write point)) :
    (decoder.scan (text.flatMap write)).text = Utf16.joinPairs text := by
  fun_induction Utf16.joinPairs text with
  | case1 high low rest surrogates induction =>
      rcases Bool.and_eq_true_iff.mp surrogates with ⟨isHigh, isLow⟩
      have highUnit := (each high (by simp)).eq_unit (by simp [CodePoint.isSurrogate_eq, isHigh])
      have lowUnit := (each low (by simp)).eq_unit (by simp [CodePoint.isSurrogate_eq, isLow])
      have following := induction fun point member => each point (by simp [member])
      rw [List.flatMap_cons, List.flatMap_cons, highUnit, lowUnit,
        scan_unit_pair leads readsUnits prints (Utf16.isHighSurrogate_iff.mp isHigh)
          (Utf16.isLowSurrogate_iff.mp isLow), following]
  | case2 high low rest notPair induction =>
      have following := induction fun point member => each point (List.mem_cons_of_mem high member)
      have alone : high.isHighSurrogate = true →
          lowUnit? ((low :: rest).flatMap write) = none := by
        intro isHigh
        have notLow : low.isLowSurrogate = false := by simpa [isHigh] using notPair
        exact (each low (by simp)).lowUnit?_append prints notLow _
      rw [List.flatMap_cons, (each high (by simp)).scan_append leads readsUnits prints alone,
        following]
  | case3 last =>
      rw [List.flatMap_cons, List.flatMap_nil,
        (each last (by simp)).scan_append leads readsUnits prints fun _ => rfl, Decoder.scan_nil]
  | case4 =>
      rw [List.flatMap_nil, Decoder.scan_nil]

/-- Reading undoes writing up to the joining of neighbouring surrogates, as long as nothing that is
immune could be mistaken for an escape or for half of a pair that was written. -/
theorem decode_encode (prints : Digits.PrintsHex print) {codec : Codec}
    (decodes : codec.decoder = some decoder)
    (writes : ∀ point, Written decoder print point (codec.escape point))
    {immune : List CodePoint} (escaped : backslash ∉ immune)
    (scalar : ∀ point ∈ immune, point.isSurrogate = false) (text : Text) :
    codec.decode (codec.encode immune text) = Utf16.joinPairs text := by
  rw [Codec.decode_eq_scan decodes]
  apply scan_flatMap leads readsUnits prints
  intro point _
  unfold Codec.encodePoint
  split
  next kept => exact .raw (fun equal => escaped (equal ▸ kept)) (scalar point kept)
  next => exact writes point

end Reading

end StringLiteral

namespace JavaScript

open StringLiteral

theorem escape_of_alphanumeric {point : CodePoint} (plain : point.isAlphanumeric = true) :
    escape point = [point] := if_pos plain

theorem mem_byNumber {number : Nat} {each : CodePoint} (member : each ∈ byNumber number) :
    each = backslash ∨ each.isAlphanumeric = true := by
  unfold byNumber at member
  split at member
  · rcases List.mem_cons.mp member with rfl | rest
    · exact .inl rfl
    · rcases List.mem_cons.mp rest with rfl | digit
      · exact .inr (by decide)
      · have hexadecimal := Digits.printsHex_upperDigit.isHexDigit_of_mem_fixed digit
        exact .inr (CodePoint.isAlphanumeric_of_isHexDigit hexadecimal)
  split at member
  · exact mem_unitEscape Digits.printsHex_upperDigit member
  · rcases List.mem_append.mp member with inHigh | inLow
    · exact mem_unitEscape Digits.printsHex_upperDigit inHigh
    · exact mem_unitEscape Digits.printsHex_upperDigit inLow

theorem mem_escape {point each : CodePoint} (member : each ∈ escape point) :
    each = backslash ∨ each.isAlphanumeric = true := by
  unfold escape at member
  split at member
  next plain =>
    rw [List.mem_singleton.mp member]
    exact .inr plain
  next => exact mem_byNumber member

theorem reads_byNumber {point : CodePoint} (small : point.val < 0x100) :
    Decoder.Reads ⟨backslash, unescape⟩ (byNumber point.val) [point] := by
  have written : byNumber point.val
      = backslash :: .ofChar 'x' :: (Digits.fixed 16 2 point.val).map CodePoint.upperDigit :=
    if_pos small
  refine ⟨.ofChar 'x' :: (Digits.fixed 16 2 point.val).map CodePoint.upperDigit, written, ?_⟩
  intro rest
  have digits := fixedHex?_append Digits.printsHex_upperDigit 2 point.val (by simpa using small)
    rest
  dsimp only
  rw [List.cons_append, unescape, if_pos rfl, readByte, digits, Option.map_some,
    CodePoint.ofNat_val, List.length_cons, List.length_map, Digits.length_fixed]

/-- Everything is written in one of the forms of a literal. -/
theorem written_escape (point : CodePoint) :
    Written ⟨backslash, unescape⟩ CodePoint.upperDigit point (escape point) := by
  cases plain : point.isAlphanumeric with
  | true =>
      have different : point ≠ backslash := CodePoint.ne_of_alphanumeric plain (by decide)
      rw [escape_of_alphanumeric plain]
      exact .raw different (CodePoint.isSurrogate_of_alphanumeric plain)
  | false =>
      have number : escape point = byNumber point.val := if_neg (by simp [plain])
      rw [number]
      by_cases byte : point.val < 0x100
      · have reads := reads_byNumber byte
        have written : byNumber point.val
            = backslash :: .ofChar 'x' :: Text.upperHexFixed 2 point.val := if_pos byte
        rw [written] at reads ⊢
        have scalar : point.isSurrogate = false := CodePoint.isSurrogate_of_lt (by omega)
        exact .short (by decide) scalar reads
      · rw [byNumber, if_neg byte]
        split
        next unit => exact .unit unit
        next beyond => exact .pair (by omega)

theorem unescape_unit (digits : Text) : unescape (.ofChar 'u' :: digits) = readUnit digits := by
  rw [unescape, if_neg (by decide), if_pos rfl]

theorem escape_ne_raw {point : CodePoint} (special : point.isAlphanumeric = false) :
    escape point ≠ [point] := by
  have number : escape point = byNumber point.val := if_neg (by simp [special])
  rw [number]
  unfold byNumber
  split
  · simp [Text.upperHexFixed, Digits.fixed]
  split
  · simp [unitEscape]
  · simp [unitEscape]

/-- Every code point that is written as an escape is read as something, even a surrogate. -/
theorem unescape_escape {point : CodePoint} (special : point.isAlphanumeric = false) :
    ∃ body, escape point = backslash :: body ∧ ∀ rest, unescape (body ++ rest) ≠ none :=
  (written_escape point).reads Digits.printsHex_upperDigit rfl unescape_unit (escape_ne_raw special)

/-- Reading undoes writing up to the joining of neighbouring surrogates. -/
theorem decode_encode {immune : List CodePoint} (escaped : backslash ∉ immune)
    (scalar : ∀ point ∈ immune, point.isSurrogate = false) (text : Text) :
    codec.decode (codec.encode immune text) = Utf16.joinPairs text :=
  StringLiteral.decode_encode rfl unescape_unit Digits.printsHex_upperDigit rfl written_escape
    escaped scalar text

end JavaScript

namespace Json

open StringLiteral

theorem unescape_unit (digits : Text) : unescape (.ofChar 'u' :: digits) = readUnit digits := by
  rw [unescape, if_pos rfl]

/-- A letter that is no `u` is read as what it stands for. -/
theorem reads_short {letter point : CodePoint} (noUnit : letter ≠ .ofChar 'u')
    (denotes : single? letter = some point) :
    Decoder.Reads ⟨backslash, unescape⟩ [backslash, letter] [point] := by
  refine ⟨[letter], rfl, fun rest => ?_⟩
  dsimp only
  rw [List.singleton_append, unescape, if_neg noUnit, denotes]
  rfl

theorem bounds_of_controlLetter? {point letter : CodePoint}
    (written : controlLetter? point = some letter) :
    point.val < 0x20 ∧ letter ∈ (['b', 't', 'n', 'f', 'r'] : List CodePoint) := by
  unfold controlLetter? at written
  split at written
  all_goals
    cases written
  all_goals
    exact ⟨by omega, by decide⟩

/-- The letter of a control character stands for nothing else, and opens no unit. -/
theorem single?_controlLetter? {point letter : CodePoint}
    (written : controlLetter? point = some letter) :
    letter ≠ .ofChar 'u' ∧ single? letter = some point := by
  have letters : ∀ each ∈ (['b', 't', 'n', 'f', 'r'] : List CodePoint),
      each ≠ .ofChar 'u' ∧ ¬(each = doubleQuote ∨ each = backslash ∨ each = '/') := by decide
  rcases letters letter (bounds_of_controlLetter? written).2 with ⟨noUnit, noSign⟩
  exact ⟨noUnit, (if_neg noSign).trans (control?_controlLetter? written)⟩

/-- Everything is written in one of the forms of a literal. -/
theorem written_escape (point : CodePoint) :
    Written ⟨backslash, unescape⟩ CodePoint.lowerDigit point (escape point) := by
  unfold escape
  split
  next sign =>
    rcases sign with rfl | rfl
    · exact .short (by decide) (by decide) (reads_short (by decide) (if_pos (.inl rfl)))
    · exact .short (by decide) (by decide) (reads_short (by decide) (if_pos (.inr (.inl rfl))))
  next noSign =>
    have different : point ≠ backslash := fun equal => noSign (.inr equal)
    split
    next letter written =>
      have small := (bounds_of_controlLetter? written).1
      have scalar : point.isSurrogate = false := CodePoint.isSurrogate_of_lt (by omega)
      rcases single?_controlLetter? written with ⟨noUnit, denotes⟩
      exact .short noUnit scalar (reads_short noUnit denotes)
    next =>
      split
      next number =>
        refine .unit ?_
        simp only [CodePoint.isSurrogate, Bool.and_eq_true, decide_eq_true_eq] at number
        omega
      next plain => exact .raw different (by simpa using fun surrogate => plain (.inr surrogate))

/-- Reading undoes writing up to the joining of neighbouring surrogates. -/
theorem decode_encode {immune : List CodePoint} (escaped : backslash ∉ immune)
    (scalar : ∀ point ∈ immune, point.isSurrogate = false) (text : Text) :
    codec.decode (codec.encode immune text) = Utf16.joinPairs text :=
  StringLiteral.decode_encode rfl unescape_unit Digits.printsHex_lowerDigit rfl written_escape
    escaped scalar text

end Json

end Escaping
