import Escaping.Codec.OctetRun

/-!
Percent-encoding. The codec keeps ASCII letters and digits only; the encoding of a URL component
also keeps the four other unreserved characters, and refuses surrogates, which have no UTF-8 form.
-/

namespace Escaping

namespace Percent

def percent : CodePoint := .ofNat 0x25

def escape (point : CodePoint) : Text :=
  if point.isAlphanumeric then [point] else OctetRun.escape percent .upperDigit point

def codec : Codec :=
  ⟨Text.ofString "PercentCodec", escape, some ⟨percent, OctetRun.unescape percent⟩⟩

def otherUnreserved : List CodePoint := ['-', '.', '_', '~']

def isUnreserved (point : CodePoint) : Bool :=
  point.isAlphanumeric || decide (point ∈ otherUnreserved)

def escapeRun (run : Text) : Text :=
  (Utf8.encode run).flatMap fun octet => percent :: Text.upperHexFixed 2 octet.toNat

/-- Percent-encodes maximal runs of reserved characters, each as one piece of UTF-8. -/
def encodeRuns (text : Text) : Text :=
  match text with
  | [] => []
  | head :: tail =>
      if isUnreserved head then head :: encodeRuns tail
      else
        escapeRun (head :: tail.takeWhile fun point => !isUnreserved point)
          ++ encodeRuns (tail.dropWhile fun point => !isUnreserved point)
termination_by text.length
decreasing_by
  · simp
  · exact Nat.lt_succ_of_le (List.dropWhile_suffix _).length_le

/-- Percent-encodes a URL component, or names the first surrogates in it. -/
def encodeComponent (text : Text) : Except Utf8.SurrogateRun Text :=
  match Utf8.surrogateRun? text with
  | some found => .error found
  | none => .ok (encodeRuns text)

def startsEscape : Text → Bool
  | high :: low :: _ => high.isHexDigit && low.isHexDigit
  | _ => false

def stray? : Text → Option Nat
  | [] => none
  | head :: tail =>
      if head = percent ∧ !startsEscape tail then some 0
      else (stray? tail).map (· + 1)

end Percent

end Escaping
