import Escaping.Codec.Css
import Escaping.Codec.Shell
import Escaping.Codec.Sql
import Escaping.Proofs.Codec.Scanning
import Escaping.Proofs.Text.Digits

/-!
Escapes of single characters read back. A shell and MySQL put one character after the lead, Oracle
writes its quote twice, and CSS closes its digits with a space. Each of these escapes ends by
itself, so that nothing after it is taken for a part of it.
-/

namespace Escaping

namespace Css

theorem length_lowerHex_le {number : Nat} (inside : number < 0x110000) :
    (Text.lowerHex number).length ≤ 6 := by
  rw [Text.lowerHex, List.length_map]
  exact Digits.length_ofNat_le (Nat.lt_trans inside (by decide))

/-- The digits of a code point are all of the six that an escape may have, if a space follows. -/
theorem takeWhile_lowerHex {number : Nat} (inside : number < 0x110000) (rest : Text) :
    ((Text.lowerHex number ++ space :: rest).take 6).takeWhile CodePoint.isHexDigit
      = Text.lowerHex number := by
  have short := length_lowerHex_le inside
  rw [List.take_append, List.take_of_length_le short,
    List.takeWhile_append_of_pos fun point member => Text.isHexDigit_of_mem_lowerHex member]
  cases room : 6 - (Text.lowerHex number).length with
  | zero => simp
  | succ room =>
      have stops : ¬space.isHexDigit = true := by decide
      rw [List.take_succ_cons, List.takeWhile_cons_of_neg stops, List.append_nil]

/-- The space belongs to the escape, and a blank after it does not. -/
theorem blankLength_space (rest : Text) : blankLength (space :: rest) = 1 := by
  cases rest with
  | nil => rfl
  | cons next others => rfl

theorem reads_byNumber {number : Nat} (inside : number < 0x110000) :
    Decoder.Reads ⟨backslash, unescape⟩ (byNumber number) [.ofReference number] := by
  refine ⟨Text.lowerHex number ++ [space], rfl, fun rest => ?_⟩
  have digits := takeWhile_lowerHex inside rest
  have nonempty : ¬(Text.lowerHex number).isEmpty = true := by
    simpa using Text.lowerHex_ne_nil number
  rw [List.append_assoc, List.singleton_append]
  simp only [unescape, digits, if_neg nonempty, List.drop_left, blankLength_space,
    Text.number_lowerHex, List.length_append, List.length_singleton]

/-- NUL and surrogates come back as the replacement character. -/
theorem restores_escape :
    Decoder.Restores ⟨backslash, unescape⟩ escape fun point => .ofReference point.val := by
  intro point
  cases plain : point.isAlphanumeric with
  | true =>
      have bounds := CodePoint.bounds_of_alphanumeric plain
      have same : CodePoint.ofReference point.val = point := by
        rw [CodePoint.ofReference, if_neg (by omega), CodePoint.ofNat_val]
      exact .inl ⟨if_pos plain, CodePoint.ne_of_alphanumeric plain (by decide), same⟩
  | false =>
      have written : escape point
          = byNumber (if point.val = 0 then CodePoint.replacement.val else point.val) :=
        if_neg (by simp [plain])
      right
      rw [written]
      by_cases nul : point.val = 0
      · have reads := reads_byNumber CodePoint.replacement.inRange
        have same : CodePoint.ofReference CodePoint.replacement.val = .ofReference point.val := by
          rw [nul]
          decide
        dsimp only
        rw [if_pos nul, ← same]
        exact reads
      · rw [if_neg nul]
        exact reads_byNumber point.inRange

end Css

namespace Shell

theorem restores_escape {lead : CodePoint} (special : lead.isAlphanumeric = false) :
    Decoder.Restores ⟨lead, unescape⟩ (escape lead) id := by
  intro point
  cases plain : point.isAlphanumeric with
  | true => exact .inl ⟨if_pos plain, CodePoint.ne_of_alphanumeric plain special, rfl⟩
  | false =>
      have written : escape lead point = [lead, point] := if_neg (by simp [plain])
      exact .inr ⟨[point], written, fun rest => rfl⟩

end Shell

namespace MySql

/-- A control character has a letter that stands for it alone. -/
theorem control?_of_letter? {point letter : CodePoint} (written : letter? point = some letter) :
    control? letter = some point := by
  have inverse : ∀ entry ∈ controls, control? entry.2 = some (.ofNat entry.1) := by decide
  rcases Option.map_eq_some_iff.mp written with ⟨entry, found, rfl⟩
  have number : entry.1 = point.val := by simpa using List.find?_some found
  rw [inverse entry (List.mem_of_find?_eq_some found), number, CodePoint.ofNat_val]

/-- What stands for a control character is a letter or a digit. -/
theorem control?_of_special {point : CodePoint} (special : point.isAlphanumeric = false) :
    control? point = none := by
  have alphanumeric : ∀ entry ∈ controls, entry.2.isAlphanumeric = true := by decide
  rw [control?, List.find?_eq_none.mpr, Option.map_none]
  intro entry member same
  have equal : entry.2 = point := by simpa using same
  have plain := alphanumeric entry member
  rw [equal, special] at plain
  cases plain

theorem restores_escape : Decoder.Restores ⟨backslash, unescape⟩ escape id := by
  intro point
  cases plain : point.isAlphanumeric with
  | true => exact .inl ⟨if_pos plain, CodePoint.ne_of_alphanumeric plain (by decide), rfl⟩
  | false =>
      have written : escape point = [backslash, (letter? point).getD point] :=
        if_neg (by simp [plain])
      have denotes : (control? ((letter? point).getD point)).getD ((letter? point).getD point)
          = point := by
        cases control : letter? point with
        | none => rw [Option.getD_none, control?_of_special plain, Option.getD_none]
        | some letter => rw [Option.getD_some, control?_of_letter? control, Option.getD_some]
      refine .inr ⟨[(letter? point).getD point], written, fun rest => ?_⟩
      dsimp only
      rw [List.singleton_append, unescape, denotes]
      rfl

end MySql

namespace Oracle

theorem unescape_quote (rest : Text) : unescape (quote :: rest) = some ⟨[quote], 1⟩ := by
  rw [unescape, if_pos rfl]

theorem restores_escape : Decoder.Restores ⟨quote, unescape⟩ escape id := by
  intro point
  by_cases isQuote : point = quote
  · subst isQuote
    exact .inr ⟨[quote], if_pos rfl, unescape_quote⟩
  · exact .inl ⟨if_neg isQuote, isQuote, rfl⟩

end Oracle

end Escaping
