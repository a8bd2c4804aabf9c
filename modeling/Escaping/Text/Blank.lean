import Escaping.Text.Basic

/-!
Blanks: the white space of Unicode together with the four separators of ASCII, U+001C to U+001F.
-/

namespace Escaping

namespace CodePoint

def isBlank (point : CodePoint) : Bool :=
  (0x9 ≤ point.val && point.val ≤ 0xd) || (0x1c ≤ point.val && point.val ≤ 0x20)
    || (0x2000 ≤ point.val && point.val ≤ 0x200a)
    || [0x85, 0xa0, 0x1680, 0x2028, 0x2029, 0x202f, 0x205f, 0x3000].contains point.val

end CodePoint

namespace Text

def strip (text : Text) : Text := trim CodePoint.isBlank text

def removeBlanks (text : Text) : Text := text.filter fun point => !point.isBlank

end Text

end Escaping
