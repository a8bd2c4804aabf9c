import Escaping.Proofs.Base64.Reading
import Escaping.Proofs.Text.Cutting
import Escaping.Proofs.Text.Utf8

/-!
Base64 there and back. What octets are encoded as denotes them, and it holds no blank, so that
blanks put into it anywhere do no harm. Lines of a fixed length are one way to put them in. A text
is encoded by its UTF-8 form, which it has unless it holds a surrogate.
-/

namespace Escaping

namespace Text

/-- A text with blanks put into it, any of them at any places. -/
inductive Interspersed : Text → Text → Prop
  | nil : Interspersed [] []
  | keep (point : CodePoint) {text spaced : Text} :
      Interspersed text spaced → Interspersed (point :: text) (point :: spaced)
  | blank {point : CodePoint} {text spaced : Text} :
      point.isBlank = true → Interspersed text spaced → Interspersed text (point :: spaced)

theorem Interspersed.removeBlanks_eq {text spaced : Text} (interspersed : Interspersed text spaced) :
    spaced.removeBlanks = text.removeBlanks := by
  induction interspersed with
  | nil => rfl
  | keep point _ induction =>
      simp only [removeBlanks, List.filter_cons] at induction ⊢
      rw [induction]
  | blank blank _ induction =>
      rw [← induction, removeBlanks, List.filter_cons_of_neg (by simp [blank])]
      rfl

theorem removeBlanks_of_visible {text : Text} (visible : ∀ point ∈ text, point.isBlank = false) :
    text.removeBlanks = text :=
  List.filter_eq_self.mpr fun point member => by simp [visible point member]

section Joining

variable {separator : CodePoint}

/-- Joining puts separators between the parts, and blanks as separators disappear again. -/
theorem filter_join {keeps : CodePoint → Bool} (drops : keeps separator = false) :
    ∀ parts : List Text, (join [separator] parts).filter keeps = parts.flatten.filter keeps
  | [] => rfl
  | [part] => by rw [join, List.flatten_cons, List.flatten_nil, List.append_nil]
  | part :: next :: rest => by
      have later := filter_join drops (next :: rest)
      rw [join, List.filter_append, List.filter_append, later,
        List.filter_cons_of_neg (by simp [drops]), List.filter_nil, List.append_nil,
        @List.flatten_cons _ part, List.filter_append]

theorem getLast?_join : ∀ {parts : List Text} {last : Text}, parts.getLast? = some last →
    last ≠ [] → (join [separator] parts).getLast? = last.getLast?
  | [part], last, ends, _ => by
      cases ends
      rfl
  | part :: next :: rest, last, ends, visible => by
      have later : (join [separator] (next :: rest)).getLast? = last.getLast? :=
        getLast?_join (by rwa [List.getLast?_cons_cons] at ends) visible
      have present : (last.getLast?).isSome = true := List.getLast?_isSome.mpr visible
      rw [join, List.getLast?_append, later, Option.or_of_isSome present]

end Joining

end Text

namespace Base64

section Encoding

/-- Sextets with the bits of three octets spell these. -/
theorem spelled_of_bits {first second third fourth : Nat} {high middle low : UInt8}
    (bits : ((first * 0x40 + second) * 0x40 + third) * 0x40 + fourth
      = high.toNat * 0x10000 + middle.toNat * 0x100 + low.toNat) :
    spelled first second third fourth = [high, middle, low] := by
  have highFits := high.toNat_lt
  have middleFits := middle.toNat_lt
  have lowFits := low.toNat_lt
  have upper : (high.toNat * 0x10000 + middle.toNat * 0x100 + low.toNat) / 0x10000
      = high.toNat := by omega
  have centre : (high.toNat * 0x10000 + middle.toNat * 0x100 + low.toNat) / 0x100 % 0x100
      = middle.toNat := by omega
  have lower : (high.toNat * 0x10000 + middle.toNat * 0x100 + low.toNat) % 0x100
      = low.toNat := by omega
  simp only [spelled, bits, upper, centre, lower, UInt8.ofNat_toNat]

/-- What octets are encoded as denotes them. -/
theorem denotes_encode : ∀ octets : Octets, Denotes (encode octets) octets
  | [] => .nil
  | [high] => by
      -- The octets that a short group lacks count as zeros and are not spelled.
      have fits := high.toNat_lt
      let first : Fin 64 := ⟨high.toNat / 4, by omega⟩
      let second : Fin 64 := ⟨high.toNat * 0x10 % 0x40, by omega⟩
      have spells : spelled first second 0 0 = [high, 0, 0] := by
        apply spelled_of_bits
        simp only [first, second, UInt8.toNat_zero]
        omega
      have group := Denotes.twoPads first second
      rw [spells] at group
      exact group
  | [high, middle] => by
      have highFits := high.toNat_lt
      have middleFits := middle.toNat_lt
      let bits := high.toNat * 0x100 + middle.toNat
      let first : Fin 64 := ⟨bits / 0x400, by omega⟩
      let second : Fin 64 := ⟨bits / 0x10 % 0x40, by omega⟩
      let third : Fin 64 := ⟨bits * 4 % 0x40, by omega⟩
      have spells : spelled first second third 0 = [high, middle, 0] := by
        apply spelled_of_bits
        simp only [first, second, third, bits, UInt8.toNat_zero]
        omega
      have group := Denotes.onePad first second third
      rw [spells] at group
      exact group
  | high :: middle :: low :: rest => by
      have highFits := high.toNat_lt
      have middleFits := middle.toNat_lt
      have lowFits := low.toNat_lt
      let bits := high.toNat * 0x10000 + middle.toNat * 0x100 + low.toNat
      let first : Fin 64 := ⟨bits / 0x40000, by omega⟩
      let second : Fin 64 := ⟨bits / 0x1000 % 0x40, by omega⟩
      let third : Fin 64 := ⟨bits / 0x40 % 0x40, by omega⟩
      let fourth : Fin 64 := ⟨bits % 0x40, by omega⟩
      have spells : spelled first second third fourth = [high, middle, low] := by
        apply spelled_of_bits
        simp only [first, second, third, fourth, bits]
        omega
      have group := Denotes.group first second third fourth (denotes_encode rest)
      rw [spells] at group
      exact group

theorem isBlank_padding : padding.isBlank = false := by decide

theorem isBlank_character (digit : Fin 64) : (character digit).isBlank = false := by
  revert digit
  decide

theorem isBlank_of_mem_encode {octets : Octets} {point : CodePoint}
    (member : point ∈ encode octets) : point.isBlank = false := by
  rcases (denotes_encode octets).mem member with rfl | ⟨digit, rfl⟩
  · exact isBlank_padding
  · exact isBlank_character digit

/-- Octets come back from any text that is their encoding up to blanks. -/
theorem decode_of_removeBlanks {octets : Octets} {text : Text}
    (same : text.removeBlanks = encode octets) : decode text = .ok octets := by
  rw [decode, same]
  exact decodeCompact_eq_ok_iff.mpr (.inl (denotes_encode octets))

theorem removeBlanks_encode (octets : Octets) : (encode octets).removeBlanks = encode octets :=
  Text.removeBlanks_of_visible fun _ member => isBlank_of_mem_encode member

end Encoding

section Lines

variable {width : Nat} {text part : Text}

theorem flatten_chunks (width : Nat) (text : Text) : (chunks width text).flatten = text := by
  fun_induction chunks width text with
  | case1 => rfl
  | case2 head tail induction =>
      rw [List.flatten_cons, induction, List.cons_append, List.take_append_drop]

theorem chunks_ne_nil (nonempty : text ≠ []) : chunks width text ≠ [] := by
  cases text with
  | nil => exact absurd rfl nonempty
  | cons head tail =>
      rw [chunks]
      exact List.cons_ne_nil _ _

theorem length_of_mem_chunks (member : part ∈ chunks width text) :
    1 ≤ part.length ∧ part.length ≤ width + 1 := by
  fun_induction chunks width text with
  | case1 => cases member
  | case2 head tail induction =>
      rcases List.mem_cons.mp member with rfl | later
      · rw [List.length_cons, List.length_take]
        omega
      · exact induction later

/-- Only the last piece may be short, since nothing is left behind a short one. -/
theorem length_of_mem_dropLast_chunks (member : part ∈ (chunks width text).dropLast) :
    part.length = width + 1 := by
  fun_induction chunks width text with
  | case1 => cases member
  | case2 head tail induction =>
      by_cases short : tail.length ≤ width
      · rw [List.drop_eq_nil_of_le short, chunks] at member
        cases member
      · have remaining : tail.drop width ≠ [] := by
          rw [Ne, List.drop_eq_nil_iff]
          exact short
        rw [List.dropLast_cons_of_ne_nil (chunks_ne_nil remaining)] at member
        rcases List.mem_cons.mp member with rfl | later
        · rw [List.length_cons, List.length_take]
          omega
        · exact induction later

def lineEnd : CodePoint := .ofNat 0xa

/-- How the encoding of octets is written in lines: only the last line may be short, and nothing is
behind it. -/
structure InLines (octets : Octets) (encoded written : Text) : Prop where
  unbroken : written.filter (· ≠ lineEnd) = encoded
  full : ∀ line ∈ (Text.splitAt lineEnd written).dropLast, line.length = 64
  last : octets ≠ [] → ∀ line, (Text.splitAt lineEnd written).getLast? = some line →
    1 ≤ line.length ∧ line.length ≤ 64
  closed : written.getLast? ≠ some lineEnd

theorem removeBlanks_wrapLines (text : Text) : (wrapLines text).removeBlanks = text.removeBlanks := by
  have blank : (!CodePoint.isBlank (.ofNat 0xa)) = false := by decide
  rw [Text.removeBlanks, wrapLines, Text.filter_join blank, flatten_chunks]
  rfl

theorem lineEnd_not_mem_encode (octets : Octets) : lineEnd ∉ encode octets := by
  intro member
  have visible := isBlank_of_mem_encode member
  revert visible
  decide

theorem encode_ne_nil {octets : Octets} (nonempty : octets ≠ []) : encode octets ≠ [] := by
  intro empty
  have denoted := denotes_encode octets
  rw [empty] at denoted
  cases denoted
  exact nonempty rfl

theorem inLines_wrapLines (octets : Octets) :
    InLines octets (encode octets) (wrapLines (encode octets)) := by
  have unbroken : (wrapLines (encode octets)).filter (· ≠ lineEnd) = encode octets := by
    rw [wrapLines, Text.filter_join (by decide), flatten_chunks, List.filter_eq_self]
    intro point member
    exact decide_eq_true fun equal => lineEnd_not_mem_encode octets (equal ▸ member)
  by_cases empty : octets = []
  · subst empty
    have nothing : wrapLines (encode []) = [] := by
      rw [encode, wrapLines, chunks]
      rfl
    refine ⟨unbroken, ?_, fun nonempty => absurd rfl nonempty, ?_⟩
    · rw [nothing]
      intro line member
      cases member
    · rw [nothing]
      intro ends
      cases ends
  · have outside : ∀ line ∈ chunks (lineLength - 1) (encode octets), lineEnd ∉ line := by
      intro line member inLine
      apply lineEnd_not_mem_encode octets
      rw [← flatten_chunks (lineLength - 1) (encode octets)]
      exact List.mem_flatten_of_mem member inLine
    have some : chunks (lineLength - 1) (encode octets) ≠ [] :=
      chunks_ne_nil (encode_ne_nil empty)
    have lines : Text.splitAt lineEnd (wrapLines (encode octets))
        = chunks (lineLength - 1) (encode octets) := Text.splitAt_join some outside
    refine ⟨unbroken, ?_, ?_, ?_⟩
    · rw [lines]
      exact fun line member => length_of_mem_dropLast_chunks member
    · rw [lines]
      exact fun _ line ends => length_of_mem_chunks (List.mem_of_getLast? ends)
    · have ends := List.getLast?_eq_some_getLast some
      have member := List.getLast_mem some
      have visible := List.ne_nil_of_length_pos (length_of_mem_chunks member).1
      rw [wrapLines, Text.getLast?_join ends visible]
      exact fun last => outside _ member (List.mem_of_getLast? last)

end Lines

end Base64

namespace Encoder

theorem decodeFromBase64_of_removeBlanks {octets : Octets} {text : Text}
    (same : text.removeBlanks = Base64.encode octets) : decodeFromBase64 text = .ok octets := by
  rw [decodeFromBase64, Base64.decode_of_removeBlanks same]
  rfl

theorem decodeFromBase64_encodeLines (octets : Octets) (wrap : Bool) :
    decodeFromBase64 (Base64.encodeLines octets wrap) = .ok octets := by
  apply decodeFromBase64_of_removeBlanks
  cases wrap with
  | false => exact Base64.removeBlanks_encode octets
  | true =>
      exact (Base64.removeBlanks_wrapLines _).trans (Base64.removeBlanks_encode octets)

theorem encodeForBase64_text (text : Text) (wrap : Bool) :
    encodeForBase64 (.text text) wrap
      = match Utf8.surrogateRun? text with
        | some found => .error (.ofEncodingFault (.surrogateInBuffer found))
        | none => .ok (Base64.encodeLines (Utf8.encode text) wrap) := by
  rw [encodeForBase64, bufferOf, bufferOfText, Utf8.encodeStrict]
  cases Utf8.surrogateRun? text with
  | some found => rfl
  | none => rfl

/-- Octets come back from their encoding, in lines or not, and with blanks anywhere in it. The lines
are the encoding cut every 64 characters. A text is encoded as the octets of its UTF-8 form are, and
refused where it holds a surrogate. -/
theorem decodeFromBase64_encodeForBase64 (octets : Octets) (text : Text) :
    (∃ encoded written,
      encodeForBase64 (.octets octets) false = .ok encoded
      ∧ encodeForBase64 (.octets octets) true = .ok written
      ∧ decodeFromBase64 encoded = .ok octets
      ∧ decodeFromBase64 written = .ok octets
      ∧ (∀ spaced, Text.Interspersed encoded spaced → decodeFromBase64 spaced = .ok octets)
      ∧ Base64.InLines octets encoded written)
    ∧ ∀ wrap,
      ((∃ notice, encodeForBase64 (.text text) wrap
          = .error (.error (.encoding notice (some EncodingFault.base64Name) none)))
        ↔ ∃ point ∈ text, point.isSurrogate = true)
      ∧ ((∀ point ∈ text, point.isSurrogate = false) → ∃ encoded,
        encodeForBase64 (.text text) wrap = .ok encoded
        ∧ encodeForBase64 (.octets (Utf8.encode text)) wrap = .ok encoded
        ∧ decodeFromBase64 encoded = .ok (Utf8.encode text)) := by
  refine ⟨⟨_, _, rfl, rfl, decodeFromBase64_encodeLines octets false,
    decodeFromBase64_encodeLines octets true, ?_, Base64.inLines_wrapLines octets⟩, ?_⟩
  · intro spaced interspersed
    apply decodeFromBase64_of_removeBlanks
    exact interspersed.removeBlanks_eq.trans (Base64.removeBlanks_encode octets)
  · intro wrap
    rw [encodeForBase64_text, ← Utf8.exists_surrogateRun?_iff, ← Utf8.surrogateRun?_eq_none_iff]
    cases Utf8.surrogateRun? text with
    | none =>
        refine ⟨iff_of_false ?_ ?_, fun _ => ⟨_, rfl, rfl, decodeFromBase64_encodeLines _ wrap⟩⟩
        · rintro ⟨_, impossible⟩
          cases impossible
        · rintro ⟨_, impossible⟩
          cases impossible
    | some found =>
        refine ⟨iff_of_true ⟨_, rfl⟩ ⟨found, rfl⟩, fun impossible => ?_⟩
        cases impossible

/-- A blank between the two signs of a padding does no harm. -/
theorem decodeFromBase64_encodeForBase64_partedPadding :
    decodeFromBase64 (Text.ofString "AA= =") = .ok [0]
    ∧ ∃ encoded, encodeForBase64 (.text (Text.ofString "é€")) true = .ok encoded
      ∧ decodeFromBase64 encoded = .ok [0xc3, 0xa9, 0xe2, 0x82, 0xac] := by
  rcases decodeFromBase64_encodeForBase64 [0] (Text.ofString "é€") with
    ⟨⟨encoded, _, made, _, _, _, spaced, _⟩, encodes⟩
  constructor
  · have same : encodeForBase64 (.octets [0]) false = .ok (Text.ofString "AA==") := by rfl
    cases same.symm.trans made
    apply spaced
    have padding : Text.Interspersed ['=', '='] ['=', ' ', '='] :=
      .keep _ (.blank (by decide) (.keep _ .nil))
    exact .keep _ (.keep _ padding)
  · rcases (encodes true).2 (by decide) with ⟨encoded, written, _, read⟩
    have octets : Utf8.encode (Text.ofString "é€") = [0xc3, 0xa9, 0xe2, 0x82, 0xac] := by decide
    rw [octets] at read
    exact ⟨encoded, written, read⟩

end Encoder

end Escaping
