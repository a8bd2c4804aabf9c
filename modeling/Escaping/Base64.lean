import Escaping.Text.Blank
import Escaping.Text.Digits
import Escaping.Text.Utf8

/-!
Base64. Three octets become four characters of an alphabet of 64; one or two octets at the end
become two or three characters and padding. Whole buffers are encoded, so Base64 is no codec of
single characters and takes no part in canonicalization.
-/

namespace Escaping

namespace Base64

def character (sextet : Nat) : CodePoint :=
  if sextet < 26 then .ofNat (0x41 + sextet)
  else if sextet < 52 then .ofNat (0x61 + (sextet - 26))
  else if sextet < 62 then .ofNat (0x30 + (sextet - 52))
  else if sextet = 62 then .ofNat 0x2b
  else .ofNat 0x2f

def sextet? (point : CodePoint) : Option Nat :=
  let number := point.val
  if 0x41 ≤ number ∧ number ≤ 0x5a then some (number - 0x41)
  else if 0x61 ≤ number ∧ number ≤ 0x7a then some (number - 0x61 + 26)
  else if 0x30 ≤ number ∧ number ≤ 0x39 then some (number - 0x30 + 52)
  else if number = 0x2b then some 62
  else if number = 0x2f then some 63
  else none

def padding : CodePoint := '='

/-- The characters of the groups of three octets, padding after a short group at the end. -/
def encode : Octets → Text
  | first :: second :: third :: rest =>
      let bits := first.toNat * 0x10000 + second.toNat * 0x100 + third.toNat
      character (bits / 0x40000) :: character (bits / 0x1000 % 0x40)
        :: character (bits / 0x40 % 0x40) :: character (bits % 0x40) :: encode rest
  | [first, second] =>
      let bits := first.toNat * 0x100 + second.toNat
      [character (bits / 0x400), character (bits / 0x10 % 0x40), character (bits * 4 % 0x40),
        padding]
  | [first] =>
      [character (first.toNat / 4), character (first.toNat * 0x10 % 0x40), padding, padding]
  | [] => []

def lineLength : Nat := 64

/-- The pieces of a text, each of `width + 1` code points but the last. -/
def chunks (width : Nat) : Text → List Text
  | [] => []
  | head :: tail => (head :: tail.take width) :: chunks width (tail.drop width)
termination_by text => text.length
decreasing_by exact Nat.lt_succ_of_le (by simp only [List.length_drop]; omega)

/-- Breaks a text into lines, with no line end after the last. -/
def wrapLines (text : Text) : Text := Text.join [.ofNat 0xa] (chunks (lineLength - 1) text)

def encodeLines (octets : Octets) (wrap : Bool) : Text :=
  if wrap then wrapLines (encode octets) else encode octets

inductive Malformed where
  | unevenLength (characters : Nat)
  | nonAscii
  | foreign
  | leadingPadding
  | innerPadding
  | excess
  | missingPadding
  | danglingCharacter (characters : Nat)
deriving DecidableEq, Repr

def Malformed.message : Malformed → Text
  | .unevenLength characters =>
      Text.ofString "length " ++ Text.decimal characters ++ Text.ofString " is not a multiple of 4"
  | .nonAscii => Text.ofString "string argument should contain only ASCII characters"
  | .foreign => Text.ofString "Only base64 data is allowed"
  | .leadingPadding => Text.ofString "Leading padding not allowed"
  | .innerPadding => Text.ofString "Discontinuous padding not allowed"
  | .excess => Text.ofString "Excess data after padding"
  | .missingPadding => Text.ofString "Incorrect padding"
  | .danglingCharacter characters =>
      Text.ofString "Invalid base64-encoded string: number of data characters ("
        ++ Text.decimal characters ++ Text.ofString ") cannot be 1 more than a multiple of 4"

structure Reader where
  inGroup : Nat
  /-- Padding since the last character of the alphabet. -/
  pads : Nat
  padded : Bool
  /-- Bits of the current group that make no whole octet yet. -/
  leftover : Nat
  /-- The octets read so far, the last one first. -/
  reversed : Octets

def Reader.start : Reader := ⟨0, 0, false, 0, []⟩

def Reader.push (reader : Reader) (sextet : Nat) : Reader :=
  match reader.inGroup with
  | 0 => ⟨1, 0, reader.padded, sextet, reader.reversed⟩
  | 1 =>
      ⟨2, 0, reader.padded, sextet % 0x10,
        .ofNat (reader.leftover * 4 + sextet / 0x10) :: reader.reversed⟩
  | 2 =>
      ⟨3, 0, reader.padded, sextet % 4,
        .ofNat (reader.leftover * 0x10 + sextet / 4) :: reader.reversed⟩
  | _ =>
      ⟨0, 0, reader.padded, 0, .ofNat (reader.leftover * 0x40 + sextet) :: reader.reversed⟩

def Reader.finish (reader : Reader) : Except Malformed Octets :=
  match reader.inGroup with
  | 0 => .ok reader.reversed.reverse
  | 1 => .error (.danglingCharacter (reader.reversed.length / 3 * 4 + 1))
  | _ => .error .missingPadding

/-- Reads characters until a padded group is complete or the text ends. -/
def Reader.run (reader : Reader) : Text → Except Malformed Octets
  | [] => reader.finish
  | head :: tail =>
      if head = padding then
        let pads := if 2 ≤ reader.inGroup then reader.pads + 1 else reader.pads
        if 2 ≤ reader.inGroup ∧ 4 ≤ reader.inGroup + pads then
          if tail.isEmpty then .ok reader.reversed.reverse else .error .excess
        else run ⟨reader.inGroup, pads, true, reader.leftover, reader.reversed⟩ tail
      else match sextet? head with
        | none => .error .foreign
        | some sextet =>
            if reader.padded then .error .innerPadding else (reader.push sextet).run tail

def decodeCompact (text : Text) : Except Malformed Octets :=
  if text.length % 4 ≠ 0 then .error (.unevenLength text.length)
  else if text.any fun point => 0x80 ≤ point.val then .error .nonAscii
  else if text.head? = some padding then .error .leadingPadding
  else Reader.start.run text

/-- Decodes Base64, blanks anywhere in it apart. -/
def decode (text : Text) : Except Malformed Octets := decodeCompact text.removeBlanks

theorem sextet?_character {sextet : Nat} (small : sextet < 64) :
    sextet? (character sextet) = some sextet := by
  have all : ∀ each ∈ List.range 64, sextet? (character each) = some each := by decide
  exact all sextet (List.mem_range.mpr small)

end Base64

end Escaping
