import Escaping.Codec.StringLiteral

/-!
JSON string literals. Only what has to be escaped is: the quote, the backslash, controls, and
surrogates, which no encoding of a document can carry raw.
-/

namespace Escaping

namespace Json

open StringLiteral

def escape (point : CodePoint) : Text :=
  if point = doubleQuote ∨ point = backslash then [backslash, point]
  else match controlLetter? point with
    | some letter => [backslash, letter]
    | none =>
        if point.val < 0x20 ∨ point.isSurrogate then unitEscape .lowerDigit point.val
        else [point]

def unescape : Text → Option Unescaped
  | [] => none
  | letter :: rest =>
      if letter = 'u' then readUnit rest
      else (single? letter).map fun point => ⟨[point], 1⟩

def codec : Codec := ⟨Text.ofString "JSONCodec", escape, some ⟨backslash, unescape⟩⟩

end Json

end Escaping
