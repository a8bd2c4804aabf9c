import Escaping.Codec.Basic

/-!
CSS escapes: a backslash, one to six hexadecimal digits, and a blank that ends the digits and
belongs to the escape. A carriage return with a line feed counts as one blank.
-/

namespace Escaping

namespace Css

def backslash : CodePoint := .ofNat 0x5c

def space : CodePoint := .ofNat 0x20

def byNumber (number : Nat) : Text := backslash :: Text.lowerHex number ++ [space]

/-- NUL is written as the replacement character, which is how style sheets read it anyway. -/
def escape (point : CodePoint) : Text :=
  if point.isAlphanumeric then [point]
  else byNumber (if point.val = 0 then CodePoint.replacement.val else point.val)

/-- How many code points the blank after an escape takes: none, one, or two for a line end. -/
def blankLength (text : Text) : Nat :=
  match (text.take 2).map CodePoint.val with
  | 0xd :: 0xa :: _ => 2
  | head :: _ => if [0x9, 0xa, 0xc, 0xd, 0x20].contains head then 1 else 0
  | [] => 0

def unescape (text : Text) : Option Unescaped :=
  let digits := (text.take 6).takeWhile CodePoint.isHexDigit
  if digits.isEmpty then none
  else
    some ⟨[.ofReference (Text.number 16 digits)],
      digits.length + blankLength (text.drop digits.length)⟩

def codec : Codec := ⟨Text.ofString "CSSCodec", escape, some ⟨backslash, unescape⟩⟩

end Css

end Escaping
