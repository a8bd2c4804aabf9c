import Escaping.Routine.Argument

/-!
Positions of escapes. A negative position counts from the end of a text, and is its start where
the text is too short. The lead is looked for at the position itself; codecs differ in where they
read on from a negative one.
-/

namespace Escaping

namespace Position

def rest (text : Text) : Int → Text
  | .ofNat position => text.drop position
  | .negSucc below => text.drop (text.length - (below + 1))

def character? (text : Text) : Int → Option CodePoint
  | .ofNat position => text[position]?
  | .negSucc below => text.reverse[below]?

structure Place where
  text : Text
  stop : Int
deriving DecidableEq

/-- The escape that a codec reads from a negative position where its lead is. Escapes that are one
character after the lead end two positions further: shells and MySQL look that character up by its
own position, and Oracle takes what follows the lead. Any other escape is read from the start of
the text. -/
def fromEnd (scheme : Scheme) (decoder : Decoder) (text : Text) (position : Int) :
    Except Misuse (Option Place) :=
  let place (found : Unescaped) : Place := ⟨found.text, position + 2⟩
  match scheme with
  | .posixShell | .windowsShell | .mySql =>
      match character? text (position + 1) with
      | some point => .ok ((decoder.unescape [point]).map place)
      | none => .error .positionOutOfRange
  | .oracle => .ok ((decoder.unescape (rest text position).tail).map place)
  | _ => .ok ((decoder.findAt text 0).map fun found => ⟨found.text, found.stop⟩)

/-- The escape at a position; a codec that only encodes finds none. -/
def find (scheme : Scheme) (text : Text) (position : Int) : Except Misuse (Option Place) :=
  match scheme.codec.decoder with
  | none => .ok none
  | some decoder =>
      if 0 ≤ position then
        .ok ((decoder.findAt text position.toNat).map fun found => ⟨found.text, found.stop⟩)
      else if (rest text position).head? = some decoder.lead then
        fromEnd scheme decoder text position
      else .ok none

/-- Whether looking for an escape without a position comes to the point where one is needed. The
lead is looked for at the start then, and Oracle looks for the whole escape there. -/
def isMissed (scheme : Scheme) (text : Text) : Bool :=
  if scheme = .oracle then (scheme.codec.decodeAt text 0).isSome
  else text.head? = scheme.codec.lead

theorem find_ofNat (scheme : Scheme) (text : Text) (position : Nat) :
    find scheme text position
      = .ok ((scheme.codec.decodeAt text position).map fun found => ⟨found.text, found.stop⟩) := by
  unfold find Codec.decodeAt
  cases scheme.codec.decoder <;> simp

end Position

end Escaping
