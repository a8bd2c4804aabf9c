import Escaping.Text.Basic

/-!
UTF-8. Encoding is total: a surrogate takes the three-octet form its value would have. Decoding
accepts well-formed sequences only. It either refuses malformed octets or puts one replacement
character for each maximal part of a sequence that is cut short, and one for every other octet.
-/

namespace Escaping

abbrev Octets := List UInt8

namespace Utf8

def ofCodePoint (point : CodePoint) : Octets :=
  let number := point.val
  if number < 0x80 then [.ofNat number]
  else if number < 0x800 then
    [.ofNat (0xc0 + number / 0x40), .ofNat (0x80 + number % 0x40)]
  else if number < 0x10000 then
    [.ofNat (0xe0 + number / 0x1000), .ofNat (0x80 + number / 0x40 % 0x40),
      .ofNat (0x80 + number % 0x40)]
  else
    [.ofNat (0xf0 + number / 0x40000), .ofNat (0x80 + number / 0x1000 % 0x40),
      .ofNat (0x80 + number / 0x40 % 0x40), .ofNat (0x80 + number % 0x40)]

def encode (text : Text) : Octets := text.flatMap ofCodePoint

/-- Whether an octet may follow the first octet of a sequence. The ranges after E0, ED, F0 and F4
leave out overlong forms, surrogates and numbers past the code space. -/
def isSecond (first second : Nat) : Bool :=
  if first = 0xe0 then 0xa0 ≤ second && second ≤ 0xbf
  else if first = 0xed then 0x80 ≤ second && second ≤ 0x9f
  else if first = 0xf0 then 0x90 ≤ second && second ≤ 0xbf
  else if first = 0xf4 then 0x80 ≤ second && second ≤ 0x8f
  else 0xc2 ≤ first && first ≤ 0xf4 && 0x80 ≤ second && second ≤ 0xbf

def isContinuation (octet : Nat) : Bool := 0x80 ≤ octet && octet ≤ 0xbf

structure Sequence where
  /-- The code point, absent where the octets are malformed. -/
  point : Option CodePoint
  /-- How many octets after the first one the step takes. -/
  taken : Nat
deriving DecidableEq

/-- Reads a sequence from its first octet and the octets after it. -/
def readSequence (first : UInt8) (rest : Octets) : Sequence :=
  let lead := first.toNat
  if lead < 0x80 then ⟨some (.ofNat lead), 0⟩
  else match rest with
    | [] => ⟨none, 0⟩
    | second :: rest =>
        if !isSecond lead second.toNat then ⟨none, 0⟩
        else if lead < 0xe0 then
          ⟨some (.ofNat ((lead - 0xc0) * 0x40 + (second.toNat - 0x80))), 1⟩
        else match rest with
          | [] => ⟨none, 1⟩
          | third :: rest =>
              if !isContinuation third.toNat then ⟨none, 1⟩
              else if lead < 0xf0 then
                ⟨some (.ofNat ((lead - 0xe0) * 0x1000 + (second.toNat - 0x80) * 0x40
                  + (third.toNat - 0x80))), 2⟩
              else match rest with
                | [] => ⟨none, 2⟩
                | fourth :: _ =>
                    if !isContinuation fourth.toNat then ⟨none, 2⟩
                    else
                      ⟨some (.ofNat ((lead - 0xf0) * 0x40000 + (second.toNat - 0x80) * 0x1000
                        + (third.toNat - 0x80) * 0x40 + (fourth.toNat - 0x80))), 3⟩

/-- Decodes octets, with replacement characters for what is malformed. -/
def decode : Octets → Text
  | [] => []
  | first :: rest =>
      let sequence := readSequence first rest
      sequence.point.getD .replacement :: decode (rest.drop sequence.taken)
termination_by octets => octets.length
decreasing_by exact Nat.lt_succ_of_le (by simp only [List.length_drop]; omega)

def decode? : Octets → Option Text
  | [] => some []
  | first :: rest =>
      let sequence := readSequence first rest
      match sequence.point with
      | none => none
      | some point => (decode? (rest.drop sequence.taken)).map (point :: ·)
termination_by octets => octets.length
decreasing_by exact Nat.lt_succ_of_le (by simp only [List.length_drop]; omega)

/-- The first run of surrogates of a text, which no strict encoding can carry. -/
structure SurrogateRun where
  start : Nat
  run : Text
deriving DecidableEq

def surrogateRun? (text : Text) : Option SurrogateRun :=
  match text.findIdx? CodePoint.isSurrogate with
  | none => none
  | some start => some ⟨start, (text.drop start).takeWhile CodePoint.isSurrogate⟩

def encodeStrict (text : Text) : Except SurrogateRun Octets :=
  match surrogateRun? text with
  | some found => .error found
  | none => .ok (encode text)

theorem decode_eq_of_decode? {octets : Octets} {text : Text} (decoded : decode? octets = some text) :
    decode octets = text := by
  fun_induction decode? octets generalizing text with
  | case1 => simpa [decode] using decoded
  | case2 => simp at decoded
  | case3 first rest sequence point induction =>
      obtain ⟨tail, tailDecoded, rfl⟩ := Option.map_eq_some_iff.1 decoded
      rw [decode]
      simp_all [sequence]

end Utf8

end Escaping
