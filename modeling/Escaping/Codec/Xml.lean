import Escaping.Codec.CharacterReference

/-!
XML character references. The five predefined names are written where they exist; code points
outside the Char production of XML 1.0 are written as, and read as, the replacement character.
Every reference ends with a semicolon.
-/

namespace Escaping

namespace Xml

open CharacterReference

/-- The Char production of XML 1.0. -/
def isLegal (number : Nat) : Bool :=
  [0x9, 0xa, 0xd].contains number || (0x20 ≤ number && number ≤ 0xd7ff)
    || (0xe000 ≤ number && number ≤ 0xfffd) || (0x10000 ≤ number && number ≤ 0x10ffff)

def entities : List (String × Nat) :=
  [("lt", 0x3c), ("gt", 0x3e), ("amp", 0x26), ("quot", 0x22), ("apos", 0x27)]

def nameOf? (point : CodePoint) : Option Text :=
  (entities.find? fun (_, number) => number = point.val).map fun (name, _) => Text.ofString name

def byNumber (point : CodePoint) : Text :=
  hexadecimal (if isLegal point.val then point.val else CodePoint.replacement.val)

def escape (point : CodePoint) : Text :=
  if point.isAlphanumeric then [point]
  else match nameOf? point with
    | some name => named name
    | none => byNumber point

def ofReference (number : Nat) : CodePoint :=
  if isLegal number then .ofNat number else .replacement

def readNumeric (text : Text) : Option Unescaped :=
  (numeric? ['x'] text).bind fun digits =>
    if (text.drop digits.length).head? = some semicolon then
      some ⟨[ofReference digits.number], 1 + digits.length + 1⟩
    else none

def readNamed (text : Text) : Option Unescaped :=
  (entities.find? fun (name, _) => (Text.ofString name ++ [semicolon]).isPrefixOf text).map
    fun (name, number) => ⟨[.ofNat number], name.length + 1⟩

def unescape : Text → Option Unescaped
  | [] => none
  | head :: tail => if head = numberSign then readNumeric tail else readNamed (head :: tail)

def codec : Codec := ⟨Text.ofString "XMLCodec", escape, some ⟨ampersand, unescape⟩⟩

def attributeCodec : Codec :=
  ⟨Text.ofString "XMLAttributeCodec", escape, some ⟨ampersand, unescape⟩⟩

end Xml

end Escaping
