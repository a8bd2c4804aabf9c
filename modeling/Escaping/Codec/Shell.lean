import Escaping.Codec.Basic

/-!
Command shells. The shell's escape character before a character takes away its meaning, whatever
that character is.
-/

namespace Escaping

namespace Shell

def escape (lead point : CodePoint) : Text :=
  if point.isAlphanumeric then [point] else [lead, point]

/-- Any character may follow the lead; a lead at the end starts no escape. -/
def unescape : Text → Option Unescaped
  | [] => none
  | point :: _ => some ⟨[point], 1⟩

def codecWith (name : String) (lead : CodePoint) : Codec :=
  ⟨Text.ofString name, escape lead, some ⟨lead, unescape⟩⟩

def posix : Codec := codecWith "UnixCodec" (.ofNat 0x5c)

def windows : Codec := codecWith "WindowsCodec" '^'

end Shell

end Escaping
