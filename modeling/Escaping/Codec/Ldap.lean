import Escaping.Codec.OctetRun

/-!
LDAP. Search filters and distinguished names escape a character by its octets; they differ in
the characters that may stand raw. A slash never does, since some directories give it a meaning.
-/

namespace Escaping

namespace Ldap

def backslash : CodePoint := .ofNat 0x5c

def escapeOctets (point : CodePoint) : Text := OctetRun.escape backslash .lowerDigit point

def inRanges (ranges : List (Nat × Nat)) (number : Nat) : Bool :=
  ranges.any fun (first, last) => first ≤ number && number ≤ last

def isFilterSafe (point : CodePoint) : Bool :=
  point.val != 0x2f && inRanges [(0x01, 0x27), (0x2b, 0x5b), (0x5d, 0x7f)] point.val

/-- The characters of a distinguished name that stand for themselves in the middle of it. -/
def isNameSafe (point : CodePoint) : Bool :=
  point.val != 0x2f
    && inRanges
      [(0x01, 0x21), (0x23, 0x2a), (0x2d, 0x3a), (0x3d, 0x3d), (0x3f, 0x5b), (0x5d, 0x7f)] point.val

def escape (isSafe : CodePoint → Bool) (point : CodePoint) : Text :=
  if isSafe point then [point] else escapeOctets point

def filterCodec : Codec :=
  ⟨Text.ofString "LDAPFilterCodec", escape isFilterSafe,
    some ⟨backslash, OctetRun.unescape backslash⟩⟩

def nameCodec : Codec :=
  ⟨Text.ofString "LDAPDNCodec", escape isNameSafe,
    some ⟨backslash, OctetRun.unescape backslash⟩⟩

def wildcards (encodeWildcards : Bool) : List CodePoint := if encodeWildcards then [] else ['*']

/-- An assertion value of a filter; an asterisk may be kept as a wildcard. -/
def encodeFilter (text : Text) (encodeWildcards : Bool) : Text :=
  filterCodec.encode (wildcards encodeWildcards) text

def isLeadingSpecial (point : CodePoint) : Bool := point.val = 0x20 || point.val = 0x23

def isTrailingSpecial (point : CodePoint) : Bool := point.val = 0x20

/-- An attribute value of a distinguished name from its second character on: a space at the end
is escaped. -/
def encodeNameRest : Text → Text
  | [] => []
  | [last] =>
      if isTrailingSpecial last then escapeOctets last else nameCodec.encodePoint [] last
  | head :: next :: rest => nameCodec.encodePoint [] head ++ encodeNameRest (next :: rest)

/-- An attribute value of a distinguished name. A space or a number sign at the start and a
space at the end are escaped, although they are safe in the middle. -/
def encodeName : Text → Text
  | [] => []
  | head :: tail =>
      if isLeadingSpecial head then escapeOctets head ++ encodeNameRest tail
      else encodeNameRest (head :: tail)

end Ldap

end Escaping
