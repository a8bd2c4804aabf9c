import Escaping.Codec.StringLiteral

/-!
JavaScript string literals. Everything but ASCII letters and digits is written by number, a code
point past U+FFFF as a surrogate pair; the single-character escapes are read but never written.
-/

namespace Escaping

namespace JavaScript

open StringLiteral

/-- The escape by number, in as few digits as its three forms allow. -/
def byNumber (number : Nat) : Text :=
  if number < 0x100 then backslash :: .ofChar 'x' :: Text.upperHexFixed 2 number
  else if number < 0x10000 then unitEscape .upperDigit number
  else
    unitEscape .upperDigit (Utf16.highUnit number) ++ unitEscape .upperDigit (Utf16.lowUnit number)

def escape (point : CodePoint) : Text :=
  if point.isAlphanumeric then [point] else byNumber point.val

/-- Beside the shared ones, JavaScript reads a vertical tab and an escaped single quote. -/
def single? (letter : CodePoint) : Option CodePoint :=
  if letter = 'v' then some (.ofNat 0xb)
  else if letter = .ofNat 0x27 then some letter
  else StringLiteral.single? letter

def unescape : Text → Option Unescaped
  | [] => none
  | letter :: rest =>
      if letter = 'x' then readByte rest
      else if letter = 'u' then readUnit rest
      else (single? letter).map fun point => ⟨[point], 1⟩

def codec : Codec := ⟨Text.ofString "JavaScriptCodec", escape, some ⟨backslash, unescape⟩⟩

end JavaScript

end Escaping
