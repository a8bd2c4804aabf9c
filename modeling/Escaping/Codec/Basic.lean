import Escaping.Text.Digits

/-!
Codecs. A codec escapes single code points, and may unescape: every escape it reads starts with
its lead, and what follows the lead decides whether there is an escape and where it ends.

An unescaper sees the text after the lead only, so a match cannot depend on what comes before it.
`Decoder.sweepFrom` jumps from lead to lead and copies what stands between two escapes when it comes
to the second one; `Decoder.scan` walks one code point at a time.
-/

namespace Escaping

/-- What an escape stands for, and how many code points it takes after its lead. -/
structure Unescaped where
  text : Text
  taken : Nat
deriving DecidableEq, Repr

structure Decoder where
  lead : CodePoint
  unescape : Text → Option Unescaped

structure Codec where
  name : Text
  escape : CodePoint → Text
  decoder : Option Decoder

structure Replaced where
  text : Text
  count : Nat
deriving DecidableEq, Repr

structure Found where
  text : Text
  stop : Nat
deriving DecidableEq, Repr

namespace Replaced

def keep (verbatim : Text) (rest : Replaced) : Replaced := ⟨verbatim ++ rest.text, rest.count⟩

/-- Puts one replaced escape before what has been replaced. -/
def replace (decoded : Text) (rest : Replaced) : Replaced := ⟨decoded ++ rest.text, rest.count + 1⟩

end Replaced

/-- How far a sweep over a text has come: the parts of its output, the latest first, how many escapes
it has replaced, and where the text starts that is not yet among the parts. -/
structure Sweep where
  parts : List Text
  count : Nat
  start : Nat

namespace Sweep

def initial : Sweep := ⟨[], 0, 0⟩

/-- The text from one position to another. -/
def slice (text : Text) (start stop : Nat) : Text := (text.drop start).take (stop - start)

/-- Puts out an escape that was found at a position, and before it what stands between it and the
last one. -/
def replace (sweep : Sweep) (text : Text) (position : Nat) (found : Found) : Sweep :=
  ⟨found.text :: slice text sweep.start position :: sweep.parts, sweep.count + 1, found.stop⟩

/-- Where nothing was replaced, the text is returned as it is. -/
def finish (sweep : Sweep) (text : Text) : Replaced :=
  if sweep.count = 0 then ⟨text, 0⟩
  else ⟨(text.drop sweep.start :: sweep.parts).reverse.flatten, sweep.count⟩

end Sweep

namespace Decoder

def findAt (decoder : Decoder) (text : Text) (position : Nat) : Option Found :=
  match text.drop position with
  | [] => none
  | head :: tail =>
      if head = decoder.lead then
        (decoder.unescape tail).map fun found => ⟨found.text, position + 1 + found.taken⟩
      else none

theorem findAt_eq_some_iff {decoder : Decoder} {text : Text} {position : Nat} {found : Found} :
    decoder.findAt text position = some found
      ↔ ∃ tail unescaped, text.drop position = decoder.lead :: tail
        ∧ decoder.unescape tail = some unescaped
        ∧ found = ⟨unescaped.text, position + 1 + unescaped.taken⟩ := by
  rw [findAt]
  constructor
  · intro matched
    split at matched
    · cases matched
    next head tail here =>
      split at matched
      next lead =>
        rcases Option.map_eq_some_iff.mp matched with ⟨unescaped, read, rfl⟩
        exact ⟨tail, unescaped, lead ▸ here, read, rfl⟩
      next => cases matched
  · rintro ⟨tail, unescaped, here, read, rfl⟩
    simp [here, read]

theorem lt_stop_of_findAt {decoder : Decoder} {text : Text} {position : Nat} {found : Found}
    (matched : decoder.findAt text position = some found) : position < found.stop := by
  rcases findAt_eq_some_iff.mp matched with ⟨_, _, _, _, rfl⟩
  dsimp only
  omega

/-- The first position of the lead from some position on. -/
def leadFrom? (decoder : Decoder) (text : Text) (position : Nat) : Option Nat :=
  ((text.drop position).findIdx? (· = decoder.lead)).map (position + ·)

theorem bounds_of_leadFrom? {decoder : Decoder} {text : Text} {position next : Nat}
    (follows : decoder.leadFrom? text position = some next) :
    position ≤ next ∧ next < text.length := by
  rcases Option.map_eq_some_iff.mp follows with ⟨offset, first, rfl⟩
  rcases List.findIdx?_eq_some_iff_getElem.mp first with ⟨inside, _⟩
  rw [List.length_drop] at inside
  omega

/-- Goes on with a sweep from a position. From each lead the next one is looked for behind it if no
escape starts there, and behind the escape if one does; decoded text is not read again. -/
def sweepFrom (decoder : Decoder) (text : Text) (sweep : Sweep) (position : Nat) : Replaced :=
  match _follows : decoder.leadFrom? text position with
  | none => sweep.finish text
  | some next =>
      match matched : decoder.findAt text next with
      | none => decoder.sweepFrom text sweep (next + 1)
      | some found => decoder.sweepFrom text (sweep.replace text next found) found.stop
termination_by text.length - position
decreasing_by
  all_goals
    have bounds := bounds_of_leadFrom? _follows
  · omega
  · have behind := lt_stop_of_findAt matched
    omega

/-- Replaces every escape, looking at one code point after the other. -/
def scan (decoder : Decoder) : Text → Replaced
  | [] => ⟨[], 0⟩
  | head :: tail =>
      match if head = decoder.lead then decoder.unescape tail else none with
      | none => (decoder.scan tail).keep [head]
      | some found => (decoder.scan (tail.drop found.taken)).replace found.text
termination_by text => text.length
decreasing_by
  all_goals
    simp only [List.length_cons, List.length_drop]
    omega

end Decoder

/-- The fault of a codec that comes with a decoder or with a lead but not with both. -/
structure UnpairedLead where
  name : Text
deriving DecidableEq

def UnpairedLead.message (fault : UnpairedLead) : Text :=
  Text.ofString "decode_char and lead go together: " ++ fault.name

namespace Codec

/-- A codec from its parts; the unescaper and the lead come together or not at all. -/
def ofParts (name : Text) (escape : CodePoint → Text)
    (unescape : Option (Text → Option Unescaped)) (lead : Option CodePoint) :
    Except UnpairedLead Codec :=
  match unescape, lead with
  | some unescape, some lead => .ok ⟨name, escape, some ⟨lead, unescape⟩⟩
  | none, none => .ok ⟨name, escape, none⟩
  | _, _ => .error ⟨name⟩

def shown (codec : Codec) : Text :=
  Text.ofString "<Codec " ++ codec.name ++ Text.ofString ">"

def canDecode (codec : Codec) : Bool := codec.decoder.isSome

def lead (codec : Codec) : Option CodePoint := codec.decoder.map Decoder.lead

def encodePoint (codec : Codec) (immune : List CodePoint) (point : CodePoint) : Text :=
  if point ∈ immune then [point] else codec.escape point

def encode (codec : Codec) (immune : List CodePoint) (text : Text) : Text :=
  text.flatMap (codec.encodePoint immune)

/-- The escaped forms of the code points from one number to another, ends included, if all numbers
between them are code points. -/
def encodeRange? (codec : Codec) (immune : List CodePoint) (first last : Int) :
    Option (List Text) :=
  if last < first then some []
  else if first < 0 ∨ 0x110000 ≤ last then none
  else
    some ((List.range (last - first + 1).toNat).map fun offset =>
      codec.encodePoint immune (.ofNat (first.toNat + offset)))

def decodePass (codec : Codec) (text : Text) : Replaced :=
  match codec.decoder with
  | none => ⟨text, 0⟩
  | some decoder =>
      if decoder.lead ∈ text then decoder.sweepFrom text .initial 0 else ⟨text, 0⟩

def decode (codec : Codec) (text : Text) : Text := (codec.decodePass text).text

/-- The escape at a position of a text; a codec that only encodes finds none. -/
def decodeAt (codec : Codec) (text : Text) (position : Nat) : Option Found :=
  codec.decoder.bind fun decoder => decoder.findAt text position

@[simp] theorem encode_nil (codec : Codec) (immune : List CodePoint) :
    codec.encode immune [] = [] := rfl

theorem encode_cons (codec : Codec) (immune : List CodePoint) (head : CodePoint) (tail : Text) :
    codec.encode immune (head :: tail)
      = codec.encodePoint immune head ++ codec.encode immune tail := rfl

theorem encode_append (codec : Codec) (immune : List CodePoint) (left right : Text) :
    codec.encode immune (left ++ right)
      = codec.encode immune left ++ codec.encode immune right := by
  simp [encode]

end Codec

end Escaping
