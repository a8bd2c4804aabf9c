import Escaping.Proofs.Codec.StringLiteral
import Escaping.Proofs.Text.Printable

/-!
Quoted forms read back. What stands between the quotes is an escaped text: a backslash starts every
escape, and each escape tells by itself where it ends, since the letter behind the backslash fixes
how many digits follow. So a text is read back from its quoted form, and no two texts share one.
-/

namespace Escaping

namespace Quoted

/-- How many digits an escape by number has, told by the letter that announces them. -/
def width? (letter : CodePoint) : Option Nat :=
  if letter = 'x' then some 2
  else if letter = 'u' then some 4
  else if letter = 'U' then some 8
  else none

def control? (letter : CodePoint) : Option CodePoint :=
  if letter = 't' then some (.ofNat 0x9)
  else if letter = 'n' then some (.ofNat 0xa)
  else if letter = 'r' then some (.ofNat 0xd)
  else none

/-- Reads an escape from behind its backslash. -/
def unescape : Text → Option Unescaped
  | [] => none
  | letter :: rest =>
      match width? letter with
      | some width =>
          (StringLiteral.fixedHex? width rest).map fun number => ⟨[.ofNat number], width + 1⟩
      | none => some ⟨[(control? letter).getD letter], 1⟩

def decoder : Decoder := ⟨backslash, unescape⟩

/-- What stands between two quotes of a kind, as a codec that nothing names. -/
def inside (quote : CodePoint) : Codec := ⟨[], escape quote, some decoder⟩

/-- Digits of the announced width are read back, whatever follows them. -/
theorem reads_fixed {letter : CodePoint} {width number : Nat}
    (announced : width? letter = some width) (fits : number < Nat.pow 16 width) :
    decoder.Reads (backslash :: letter :: Text.lowerHexFixed width number) [.ofNat number] := by
  refine ⟨letter :: Text.lowerHexFixed width number, rfl, fun rest => ?_⟩
  have digits := StringLiteral.fixedHex?_append Digits.printsHex_lowerDigit width number fits rest
  have length : (letter :: Text.lowerHexFixed width number).length = width + 1 := by
    rw [List.length_cons, Text.lowerHexFixed, List.length_map, Digits.length_fixed]
  rw [length]
  simp only [decoder, List.cons_append, unescape, announced]
  rw [Text.lowerHexFixed, digits, Option.map_some]

theorem reads_numericEscape {number : Nat} (inRange : number < 0x110000) :
    decoder.Reads (numericEscape number) [.ofNat number] := by
  unfold numericEscape
  split
  next byte => exact reads_fixed rfl byte
  split
  next unit => exact reads_fixed rfl unit
  next =>
    have fits : number < Nat.pow 16 8 := Nat.lt_trans inRange (by decide)
    exact reads_fixed rfl fits

theorem control?_of_shortEscape? {point letter : CodePoint}
    (short : shortEscape? point.val = some letter) :
    width? letter = none ∧ control? letter = some point := by
  unfold shortEscape? at short
  split at short <;> simp only [Option.some.injEq, reduceCtorEq] at short
  all_goals
    subst short
    next value =>
      rw [← CodePoint.ofNat_val point, value]
      decide

/-- Every code point is read back from what is written for it. -/
theorem restores_escape {quote : CodePoint} (known : quote ∈ quotes) :
    decoder.Restores (escape quote) id := by
  intro point
  unfold escape
  split
  next special =>
    have itself : ∀ each ∈ backslash :: quotes, width? each = none ∧ control? each = none := by
      decide
    rcases itself point (mem_of_special known special) with ⟨noDigits, noControl⟩
    refine .inr ⟨[point], rfl, fun rest => ?_⟩
    simp only [decoder, List.singleton_append, unescape, noDigits, noControl, Option.getD_none,
      List.length_singleton, id]
  next plain =>
    split
    next letter short =>
      rcases control?_of_shortEscape? short with ⟨noDigits, control⟩
      refine .inr ⟨[letter], rfl, fun rest => ?_⟩
      simp only [decoder, List.singleton_append, unescape, noDigits, control, Option.getD_some,
        List.length_singleton, id]
    next =>
      split
      next => exact .inl ⟨rfl, fun equal => plain (.inr equal), rfl⟩
      next =>
        have reads := reads_numericEscape point.inRange
        rw [CodePoint.ofNat_val] at reads
        exact .inr reads

/-- Reading between the quotes undoes writing there. -/
theorem decode_inside {quote : CodePoint} (known : quote ∈ quotes) (text : Text) :
    (inside quote).decode (text.flatMap (escape quote)) = text := by
  have each : (inside quote).encodePoint [] = escape quote := funext (inside quote).encodePoint_nil
  have restored : (inside quote).decode ((inside quote).encode [] text ++ []) = _ :=
    Codec.decode_encode_append_of_restores rfl (restores_escape known) List.not_mem_nil text []
  rw [Codec.encode, each, List.append_nil, Codec.decode_nil, List.append_nil] at restored
  rw [restored]
  simp

/-- Two texts with one quoted form are the same. -/
theorem text_injective {left right : Text} (same : Quoted.text left = Quoted.text right) :
    left = right := by
  simp only [text, List.cons_append, List.cons.injEq] at same
  rcases same with ⟨quote, inner⟩
  rw [quote] at inner
  have written := List.append_cancel_right inner
  rw [← decode_inside (quoteFor_mem right) left, written, decode_inside (quoteFor_mem right)]

end Quoted

end Escaping
