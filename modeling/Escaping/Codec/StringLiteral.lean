import Escaping.Codec.Basic
import Escaping.Text.Utf16

/-!
Escapes that the string literals of JavaScript and of JSON share. They start with a backslash: a
letter for a control character, a character for itself, or hexadecimal digits of fixed width. Two
neighbouring unit escapes that write a surrogate pair read as one code point.
-/

namespace Escaping

namespace StringLiteral

def backslash : CodePoint := .ofNat 0x5c

def doubleQuote : CodePoint := .ofNat 0x22

/-- The control characters with a letter of their own in both languages. -/
def controlLetter? (point : CodePoint) : Option CodePoint :=
  match point.val with
  | 0x8 => some 'b'
  | 0x9 => some 't'
  | 0xa => some 'n'
  | 0xc => some 'f'
  | 0xd => some 'r'
  | _ => none

def control? (letter : CodePoint) : Option CodePoint :=
  if letter = 'b' then some (.ofNat 0x8)
  else if letter = 't' then some (.ofNat 0x9)
  else if letter = 'n' then some (.ofNat 0xa)
  else if letter = 'f' then some (.ofNat 0xc)
  else if letter = 'r' then some (.ofNat 0xd)
  else none

def single? (letter : CodePoint) : Option CodePoint :=
  if letter = doubleQuote ∨ letter = backslash ∨ letter = '/' then some letter
  else control? letter

/-- A unit by its number in four digits, given how a digit is printed. -/
def unitEscape (digit : Nat → CodePoint) (unit : Nat) : Text :=
  backslash :: .ofChar 'u' :: (Digits.fixed 16 4 unit).map digit

def fixedHex? (width : Nat) (text : Text) : Option Nat :=
  let digits := text.take width
  if digits.length = width ∧ digits.all CodePoint.isHexDigit then some (Text.number 16 digits)
  else none

/-- The low surrogate that a whole unit escape at the start of a text writes. -/
def lowUnit? : Text → Option Nat
  | lead :: letter :: digits =>
      if lead = backslash ∧ letter = 'u' then
        (fixedHex? 4 digits).filter fun unit => 0xdc00 ≤ unit && unit ≤ 0xdfff
      else none
  | _ => none

/-- Reads a unit escape from its four digits on, after the backslash and the letter. -/
def readUnit (digits : Text) : Option Unescaped :=
  (fixedHex? 4 digits).map fun unit =>
    match if 0xd800 ≤ unit ∧ unit ≤ 0xdbff then lowUnit? (digits.drop 4) else none with
    | some low => ⟨[.ofNat (Utf16.pair unit low)], 11⟩
    | none => ⟨[.ofNat unit], 5⟩

def readByte (digits : Text) : Option Unescaped :=
  (fixedHex? 2 digits).map fun byte => ⟨[.ofNat byte], 3⟩

theorem control?_controlLetter? {point letter : CodePoint}
    (written : controlLetter? point = some letter) : control? letter = some point := by
  unfold controlLetter? at written
  split at written <;> simp only [Option.some.injEq, reduceCtorEq] at written
  all_goals
    subst written
    next value =>
      rw [← CodePoint.ofNat_val point, value]
      decide

end StringLiteral

end Escaping
