import Escaping.Codec.Basic
import Escaping.Text.IntegerLiteral

/-!
Numeric character references of markup: a number sign and decimal digits, or a letter x between
them and hexadecimal ones. The number a run of digits denotes is only worked out where it can
name a code point.
-/

namespace Escaping

namespace CharacterReference

def ampersand : CodePoint := .ofNat 0x26

def semicolon : CodePoint := ';'

def numberSign : CodePoint := '#'

/-- The number one past the code space, which stands for all that lie further out. -/
def pastLast : Nat := 0x110000

def significant (digits : Text) : Text := digits.dropWhile fun point => point.val = 0x30

/-- The number of a run of digits, or one past the code space where more than eight digits follow
the leading zeros. -/
def boundedNumber (base : Nat) (digits : Text) : Nat :=
  if ((significant digits).drop 8).isEmpty then Text.number base (significant digits) else pastLast

/-- The integer literal that a text holds after its leading zeros, unless more than eight
characters follow them. Unlike a run of digits, the text may hold anything. -/
def literal? (digits : Text) : Option Text :=
  if (significant digits).isEmpty then some (Text.ofString "0")
  else if ((significant digits).drop 8).isEmpty then some (significant digits)
  else none

structure Digits where
  number : Nat
  length : Nat
deriving DecidableEq

/-- The maximal run of digits at the start of a text, if it holds at least one. -/
def digits? (base : Nat) (text : Text) : Option Digits :=
  let run := text.takeWhile (if base = 16 then CodePoint.isHexDigit else CodePoint.isDecimalDigit)
  if run.isEmpty then none else some ⟨boundedNumber base run, run.length⟩

def numeric? (hexLetters : List CodePoint) (text : Text) : Option Digits :=
  match text with
  | letter :: rest =>
      if letter ∈ hexLetters then
        (digits? 16 rest).map fun digits => ⟨digits.number, digits.length + 1⟩
      else digits? 10 (letter :: rest)
  | [] => none

def hexadecimal (number : Nat) : Text :=
  Text.ofString "&#x" ++ Text.lowerHex number ++ [semicolon]

def named (name : Text) : Text := ampersand :: name ++ [semicolon]

end CharacterReference

end Escaping
