import Escaping.Base64

/-!
Well-formed Base64. A text consists of groups of four characters, only the last of which may be
padded, and it denotes the octets that its groups spell. Padding that stands for whole groups behind
complete ones is not part of any such text.
-/

namespace Escaping

namespace Base64

/-- The octets that the bits of four sextets make up. -/
def spelled (first second third fourth : Nat) : Octets :=
  let bits := ((first * 0x40 + second) * 0x40 + third) * 0x40 + fourth
  [.ofNat (bits / 0x10000), .ofNat (bits / 0x100 % 0x100), .ofNat (bits % 0x100)]

/-- Well-formed text with the octets that it denotes: three for a group, and one fewer for each
padding character in the last one. -/
inductive Denotes : Text → Octets → Prop
  | nil : Denotes [] []
  | twoPads (first second : Fin 64) :
      Denotes [character first, character second, padding, padding]
        ((spelled first second 0 0).take 1)
  | onePad (first second third : Fin 64) :
      Denotes [character first, character second, character third, padding]
        ((spelled first second third 0).take 2)
  | group (first second third fourth : Fin 64) {rest : Text} {octets : Octets} :
      Denotes rest octets →
      Denotes (character first :: character second :: character third :: character fourth :: rest)
        (spelled first second third fourth ++ octets)

/-- Complete groups, at least one, with padding behind them that stands for whole groups. -/
def Overpadded (text : Text) (octets : Octets) : Prop :=
  ∃ groups count, groups ≠ [] ∧ padding ∉ groups ∧ Denotes groups octets
    ∧ text = groups ++ List.replicate (4 * (count + 1)) padding

section Alphabet

variable {point : CodePoint} {sextet : Nat}

theorem sextet?_padding : sextet? padding = none := by decide

theorem lt_of_sextet? (read : sextet? point = some sextet) : point.val < 0x80 := by
  apply Nat.lt_of_not_le
  intro high
  simp only [sextet?] at read
  rw [if_neg (by omega), if_neg (by omega), if_neg (by omega), if_neg (by omega),
    if_neg (by omega)] at read
  cases read

private theorem character_of_ascii (number : Fin 0x80) :
    (sextet? (.ofNat number)).all
      (fun sextet => sextet < 64 && character sextet = .ofNat number) = true := by
  revert number
  decide

theorem sextet?_eq_some_iff :
    sextet? point = some sextet ↔ ∃ digit : Fin 64, sextet = digit ∧ point = character digit := by
  constructor
  · intro read
    have checked := character_of_ascii ⟨point.val, lt_of_sextet? read⟩
    rw [CodePoint.ofNat_val, read] at checked
    simp only [Option.all_some, Bool.and_eq_true, decide_eq_true_eq] at checked
    exact ⟨⟨sextet, checked.1⟩, rfl, checked.2.symm⟩
  · intro written
    rcases written with ⟨digit, rfl, rfl⟩
    exact sextet?_character digit.isLt

theorem character_ne_padding (digit : Fin 64) : character digit ≠ padding := by
  intro equal
  have read := sextet?_character digit.isLt
  rw [equal, sextet?_padding] at read
  cases read

theorem character_ascii (digit : Fin 64) : (character digit).val < 0x80 :=
  lt_of_sextet? (sextet?_character digit.isLt)

end Alphabet

section Grammar

variable {text : Text} {octets : Octets}

theorem Denotes.length_mod (denoted : Denotes text octets) : text.length % 4 = 0 := by
  induction denoted with
  | nil => rfl
  | twoPads => simp
  | onePad => simp
  | group first second third fourth _ induction =>
      simp only [List.length_cons]
      omega

theorem Denotes.mem (denoted : Denotes text octets) {point : CodePoint} (member : point ∈ text) :
    point = padding ∨ ∃ digit : Fin 64, point = character digit := by
  induction denoted with
  | nil => cases member
  | twoPads first second =>
      simp only [List.mem_cons, List.not_mem_nil, or_false] at member
      rcases member with rfl | rfl | rfl | rfl
      · exact .inr ⟨first, rfl⟩
      · exact .inr ⟨second, rfl⟩
      · exact .inl rfl
      · exact .inl rfl
  | onePad first second third =>
      simp only [List.mem_cons, List.not_mem_nil, or_false] at member
      rcases member with rfl | rfl | rfl | rfl
      · exact .inr ⟨first, rfl⟩
      · exact .inr ⟨second, rfl⟩
      · exact .inr ⟨third, rfl⟩
      · exact .inl rfl
  | group first second third fourth _ induction =>
      simp only [List.mem_cons] at member
      rcases member with rfl | rfl | rfl | rfl | later
      · exact .inr ⟨first, rfl⟩
      · exact .inr ⟨second, rfl⟩
      · exact .inr ⟨third, rfl⟩
      · exact .inr ⟨fourth, rfl⟩
      · exact induction later

theorem Denotes.ascii (denoted : Denotes text octets) (point : CodePoint) (member : point ∈ text) :
    point.val < 0x80 := by
  rcases denoted.mem member with rfl | ⟨digit, rfl⟩
  · decide
  · exact character_ascii digit

theorem Denotes.head?_ne (denoted : Denotes text octets) : text.head? ≠ some padding := by
  cases denoted with
  | nil => simp
  | twoPads first _ => exact fun opens => character_ne_padding first (Option.some.inj opens)
  | onePad first _ _ => exact fun opens => character_ne_padding first (Option.some.inj opens)
  | group first _ _ _ _ => exact fun opens => character_ne_padding first (Option.some.inj opens)

theorem Denotes.rest {first second third fourth : CodePoint}
    (denoted : Denotes (first :: second :: third :: fourth :: text) octets)
    (complete : fourth ≠ padding) : ∃ later, Denotes text later := by
  cases denoted with
  | twoPads _ _ => exact absurd rfl complete
  | onePad _ _ _ => exact absurd rfl complete
  | group _ _ _ _ following => exact ⟨_, following⟩

/-- Padding behind complete groups is not part of well-formed text. -/
theorem not_denotes_append_padding {groups : Text} {read : Octets} (denoted : Denotes groups read)
    (complete : padding ∉ groups) (rest : Text) : ¬Denotes (groups ++ padding :: rest) octets := by
  induction denoted generalizing octets with
  | nil => exact fun whole => whole.head?_ne rfl
  | twoPads first second => simp at complete
  | onePad first second third => simp at complete
  | @group first second third fourth rest _ _ induction =>
      have later : padding ∉ rest := fun inside => complete (by simp [inside])
      intro whole
      rcases whole.rest (character_ne_padding fourth) with ⟨_, following⟩
      exact induction later following

theorem Overpadded.not_denotes (padded : Overpadded text octets) {other : Octets} :
    ¬Denotes text other := by
  rcases padded with ⟨groups, count, _, complete, denoted, rfl⟩
  rw [Nat.mul_add, Nat.mul_one, List.replicate_succ]
  exact not_denotes_append_padding denoted complete _

end Grammar

end Base64

end Escaping
