import Escaping.Codec.Basic

/-!
String literals of two SQL dialects: MySQL with backslash escapes, and Oracle, where a quote is
written twice.
-/

namespace Escaping

namespace MySql

def backslash : CodePoint := .ofNat 0x5c

/-- Control characters with an escape letter of their own. -/
def controls : List (Nat × CodePoint) :=
  [(0x0, '0'), (0x8, 'b'), (0x9, 't'), (0xa, 'n'), (0xd, 'r'), (0x1a, 'Z')]

def letter? (point : CodePoint) : Option CodePoint :=
  (controls.find? fun (number, _) => number = point.val).map Prod.snd

def control? (letter : CodePoint) : Option CodePoint :=
  (controls.find? fun (_, each) => each = letter).map fun (number, _) => .ofNat number

def escape (point : CodePoint) : Text :=
  if point.isAlphanumeric then [point] else [backslash, (letter? point).getD point]

/-- A letter with a meaning gives its control character, any other character itself. -/
def unescape : Text → Option Unescaped
  | [] => none
  | letter :: _ => some ⟨[(control? letter).getD letter], 1⟩

def codec : Codec := ⟨Text.ofString "MySQLCodec", escape, some ⟨backslash, unescape⟩⟩

end MySql

namespace Oracle

def quote : CodePoint := .ofNat 0x27

def escape (point : CodePoint) : Text := if point = quote then [quote, quote] else [point]

def unescape : Text → Option Unescaped
  | [] => none
  | point :: _ => if point = quote then some ⟨[quote], 1⟩ else none

def codec : Codec := ⟨Text.ofString "OracleCodec", escape, some ⟨quote, unescape⟩⟩

end Oracle

end Escaping
