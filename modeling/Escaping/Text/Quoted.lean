import Escaping.Text.Digits
import Escaping.Text.Printable
import Escaping.Text.Utf8

/-!
Quoted forms. A text is quoted so that it shows on one line and reads back unambiguously: single
quotes, or double quotes where the text holds a single quote and no double quote; a backslash
before the quote and before a backslash; escapes for whatever is not printable.
-/

namespace Escaping

namespace Quoted

def backslash : CodePoint := .ofNat 0x5c

def singleQuote : CodePoint := .ofNat 0x27

def doubleQuote : CodePoint := .ofNat 0x22

/-- The quote for a text, given whether it holds each of the two. -/
def quoteFor (text : Text) : CodePoint :=
  if singleQuote ∈ text ∧ doubleQuote ∉ text then doubleQuote else singleQuote

def shortEscape? (number : Nat) : Option CodePoint :=
  match number with
  | 0x9 => some 't'
  | 0xa => some 'n'
  | 0xd => some 'r'
  | _ => none

/-- A code point by its number in hexadecimal, in the narrowest of three forms. -/
def numericEscape (number : Nat) : Text :=
  if number < 0x100 then backslash :: .ofChar 'x' :: Text.lowerHexFixed 2 number
  else if number < 0x10000 then backslash :: .ofChar 'u' :: Text.lowerHexFixed 4 number
  else backslash :: .ofChar 'U' :: Text.lowerHexFixed 8 number

def escape (quote point : CodePoint) : Text :=
  if point = quote ∨ point = backslash then [backslash, point]
  else match shortEscape? point.val with
    | some letter => [backslash, letter]
    | none => if point.isPrintable then [point] else numericEscape point.val

def text (text : Text) : Text :=
  let quote := quoteFor text
  quote :: text.flatMap (escape quote) ++ [quote]

/-- One octet in a quoted form: ASCII as in texts, the rest by number. -/
def escapeOctet (quote : CodePoint) (octet : UInt8) : Text :=
  if octet.toNat < 0x80 then escape quote (.ofNat octet.toNat) else numericEscape octet.toNat

def octets (octets : Octets) : Text :=
  let quote := quoteFor (octets.map fun octet => CodePoint.ofNat octet.toNat)
  .ofChar 'b' :: quote :: octets.flatMap (escapeOctet quote) ++ [quote]

theorem isPrintable_lowerDigit {digit : Nat} (small : digit < 16) :
    (CodePoint.lowerDigit digit).isPrintable = true := by
  have all : ∀ each ∈ List.range 16, (CodePoint.lowerDigit each).isPrintable = true := by decide
  exact all digit (List.mem_range.mpr small)

theorem isPrintable_of_mem_numericEscape {number : Nat} {point : CodePoint}
    (member : point ∈ numericEscape number) : point.isPrintable = true := by
  have digits : ∀ width, point ∈ Text.lowerHexFixed width number → point.isPrintable = true := by
    intro width digitMember
    obtain ⟨digit, inDigits, rfl⟩ := List.mem_map.mp digitMember
    exact isPrintable_lowerDigit (Digits.lt_of_mem_fixed (by omega) inDigits)
  unfold numericEscape at member
  split at member
  · rcases List.mem_cons.mp member with rfl | member
    · decide
    rcases List.mem_cons.mp member with rfl | member
    · decide
    exact digits 2 member
  split at member
  · rcases List.mem_cons.mp member with rfl | member
    · decide
    rcases List.mem_cons.mp member with rfl | member
    · decide
    exact digits 4 member
  · rcases List.mem_cons.mp member with rfl | member
    · decide
    rcases List.mem_cons.mp member with rfl | member
    · decide
    exact digits 8 member

end Quoted

end Escaping
