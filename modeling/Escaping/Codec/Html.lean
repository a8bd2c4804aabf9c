import Escaping.Codec.CharacterReference
import Escaping.Codec.EntityNames

/-!
HTML character references. Code points that no HTML document can hold are written as a reference
to the replacement character. Numeric references may lack their semicolon, as in old documents;
named ones need it.
-/

namespace Escaping

namespace Html

open CharacterReference

/-- C0 controls but tab, line feed and carriage return; DEL; C1 controls; surrogates. -/
def isIllegal (point : CodePoint) : Bool :=
  if point.val ≤ 0x1f then !([0x9, 0xa, 0xd].contains point.val)
  else (0x7f ≤ point.val && point.val ≤ 0x9f) || point.isSurrogate

def byNumber (point : CodePoint) : Text :=
  hexadecimal (if isIllegal point then CodePoint.replacement.val else point.val)

def escape (point : CodePoint) : Text :=
  if point.isAlphanumeric then [point]
  else match if isIllegal point then none else EntityNames.nameOf? point with
    | some name => named name
    | none => byNumber point

/-- The code point of a name. The apostrophe has a name that is read but never written. -/
def pointOf? (name : Text) : Option CodePoint :=
  if name = Text.ofString "apos" then some (.ofNat 0x27) else EntityNames.pointOf? name

/-- Reads a numeric reference after the number sign; one semicolon belongs to it. -/
def readNumeric (text : Text) : Option Unescaped :=
  (numeric? ['x', 'X'] text).map fun digits =>
    let semicolons := if (text.drop digits.length).head? = some semicolon then 1 else 0
    ⟨[.ofReference digits.number], 1 + digits.length + semicolons⟩

/-- Reads a named reference; the name starts with a letter and ends at a semicolon. -/
def readNamed (text : Text) : Option Unescaped :=
  let name := text.takeWhile CodePoint.isAlphanumeric
  if name.head?.any CodePoint.isLetter ∧ (text.drop name.length).head? = some semicolon then
    (pointOf? name).map fun point => ⟨[point], name.length + 1⟩
  else none

def unescape : Text → Option Unescaped
  | [] => none
  | head :: tail => if head = numberSign then readNumeric tail else readNamed (head :: tail)

def codec : Codec := ⟨Text.ofString "HTMLEntityCodec", escape, some ⟨ampersand, unescape⟩⟩

/-- XPath has no escapes of its own; its string literals stand in markup. -/
def xPathCodec : Codec := ⟨Text.ofString "XPathCodec", escape, some ⟨ampersand, unescape⟩⟩

/-- The text of markup that holds one text node. -/
def textContent (markup : Text) : Text :=
  if ampersand ∈ markup then codec.decode markup else markup

end Html

end Escaping
