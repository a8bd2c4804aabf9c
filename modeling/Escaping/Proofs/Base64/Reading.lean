import Escaping.Encoder.Operation
import Escaping.Proofs.Base64.Groups

/-!
Which texts are read as Base64. Well-formed texts are read as what they denote. Beside them only
those are read in which padding for a whole number of groups follows complete ones.
-/

namespace Escaping

namespace Base64

namespace Reader

variable {reader : Reader} {head : CodePoint} {tail : Text} {octets reversed : Octets}

/-- The reader between two groups. -/
def between (reversed : Octets) : Reader := ⟨0, 0, false, 0, reversed⟩

/-- Another padding character completes the group. -/
def Completes (reader : Reader) : Prop :=
  2 ≤ reader.inGroup ∧ 4 ≤ reader.inGroup + (reader.pads + 1)

/-- The reader after a padding character that leaves the group incomplete. -/
def pad (reader : Reader) : Reader :=
  ⟨reader.inGroup, if 2 ≤ reader.inGroup then reader.pads + 1 else reader.pads, true,
    reader.leftover, reader.reversed⟩

theorem run_character (unpadded : reader.padded = false) (digit : Fin 64) (tail : Text) :
    reader.run (character digit :: tail) = (reader.push digit).run tail := by
  rw [run, if_neg (character_ne_padding digit), sextet?_character digit.isLt]
  simp [unpadded]

theorem run_padding_of_completes (completes : reader.Completes) (tail : Text) :
    reader.run (padding :: tail)
      = if tail.isEmpty then .ok reader.reversed.reverse else .error .excess := by
  rw [run, if_pos rfl]
  simp only [if_pos completes.1]
  exact if_pos completes

theorem run_padding_of_not_completes (open' : ¬reader.Completes) (tail : Text) :
    reader.run (padding :: tail) = reader.pad.run tail := by
  rw [run, if_pos rfl]
  simp only [Completes] at open'
  dsimp only
  rw [if_neg]
  · rfl
  · intro both
    rw [if_pos both.1] at both
    exact open' both

/-- What a reader accepts goes on with a character of the alphabet before any padding, or with
padding, after which nothing may follow once the group is complete. -/
theorem run_cons_eq_ok (accepted : reader.run (head :: tail) = .ok octets) :
    (reader.padded = false
      ∧ ∃ digit : Fin 64, head = character digit ∧ (reader.push digit).run tail = .ok octets)
    ∨ (head = padding ∧ reader.Completes ∧ tail = [] ∧ octets = reader.reversed.reverse)
    ∨ (head = padding ∧ ¬reader.Completes ∧ reader.pad.run tail = .ok octets) := by
  by_cases padded : head = padding
  · subst padded
    by_cases completes : reader.Completes
    · rw [run_padding_of_completes completes] at accepted
      split at accepted
      next last =>
          cases accepted
          exact .inr (.inl ⟨rfl, completes, List.isEmpty_iff.mp last, rfl⟩)
      next => cases accepted
    · rw [run_padding_of_not_completes completes] at accepted
      exact .inr (.inr ⟨rfl, completes, accepted⟩)
  · rw [run, if_neg padded] at accepted
    split at accepted
    next => cases accepted
    next sextet read =>
      rcases sextet?_eq_some_iff.mp read with ⟨digit, rfl, rfl⟩
      split at accepted
      next => cases accepted
      next unpadded => exact .inl ⟨Bool.eq_false_iff.mpr unpadded, digit, rfl, accepted⟩

/-- A group that breaks off after its first character cannot be completed by padding. -/
theorem run_ne_ok_of_broken (broken : reader.inGroup = 1) (padded : reader.padded = true)
    (text : Text) : reader.run text ≠ .ok octets := by
  induction text generalizing reader with
  | nil =>
      intro accepted
      rw [run, finish, broken] at accepted
      cases accepted
  | cons head tail induction =>
      intro accepted
      rcases run_cons_eq_ok accepted with ⟨unpadded, _⟩ | ⟨_, completes, _⟩ | ⟨_, _, later⟩
      · rw [padded] at unpadded
        cases unpadded
      · have enough := completes.1
        omega
      · exact @induction reader.pad broken rfl later

/-- Once padding stands between two groups, only padding may follow. -/
theorem run_padded_eq_ok (between : reader.inGroup = 0) (padded : reader.padded = true)
    {text : Text} (accepted : reader.run text = .ok octets) :
    text = List.replicate text.length padding ∧ octets = reader.reversed.reverse := by
  induction text generalizing reader with
  | nil =>
      rw [run, finish, between] at accepted
      cases accepted
      exact ⟨rfl, rfl⟩
  | cons head tail induction =>
      rcases run_cons_eq_ok accepted with ⟨unpadded, _⟩ | ⟨_, completes, _⟩ | ⟨rfl, _, later⟩
      · rw [padded] at unpadded
        cases unpadded
      · have enough := completes.1
        omega
      · rcases @induction reader.pad between rfl later with ⟨only, read⟩
        refine ⟨?_, read⟩
        rw [List.length_cons, List.replicate_succ, ← only]

theorem run_replicate_padding (between : reader.inGroup = 0) (count : Nat) :
    reader.run (List.replicate count padding) = .ok reader.reversed.reverse := by
  induction count generalizing reader with
  | zero =>
      rw [List.replicate_zero, run, finish, between]
      rfl
  | succ count induction =>
      have open' : ¬reader.Completes := by
        intro completes
        have enough := completes.1
        omega
      rw [List.replicate_succ, run_padding_of_not_completes open']
      exact @induction reader.pad between

/-- The octets of a group as the reader puts them together. -/
theorem spelled_eq (first second : Nat) {third fourth : Nat} (thirdFits : third < 64)
    (fourthFits : fourth < 64) :
    spelled first second third fourth
      = [.ofNat (first * 4 + second / 0x10), .ofNat (second % 0x10 * 0x10 + third / 4),
        .ofNat (third % 4 * 0x40 + fourth)] := by
  have high : (((first * 0x40 + second) * 0x40 + third) * 0x40 + fourth) / 0x10000
      = first * 4 + second / 0x10 := by omega
  have middle : (((first * 0x40 + second) * 0x40 + third) * 0x40 + fourth) / 0x100 % 0x100
      = second % 0x10 * 0x10 + third / 4 := by omega
  have low : (((first * 0x40 + second) * 0x40 + third) * 0x40 + fourth) % 0x100
      = third % 4 * 0x40 + fourth := by omega
  simp only [spelled, high, middle, low]

theorem run_group (first second third fourth : Fin 64) (rest : Text) :
    (between reversed).run
        (character first :: character second :: character third :: character fourth :: rest)
      = (between ((spelled first second third fourth).reverse ++ reversed)).run rest := by
  rw [run_character rfl, run_character rfl, run_character rfl, run_character rfl,
    spelled_eq _ _ third.isLt fourth.isLt]
  rfl

/-- What a reader accepts between two groups is a group and what it accepts after it, or a padded
group, or only padding. -/
theorem run_between_eq_ok {first second third fourth : CodePoint}
    (accepted : (between reversed).run (first :: second :: third :: fourth :: tail) = .ok octets) :
    (∃ w x y z : Fin 64, first = character w ∧ second = character x ∧ third = character y
        ∧ fourth = character z
        ∧ (between ((spelled w x y z).reverse ++ reversed)).run tail = .ok octets)
      ∨ (∃ group : Octets, Denotes (first :: second :: third :: fourth :: tail) group
        ∧ octets = reversed.reverse ++ group)
      ∨ (first :: second :: third :: fourth :: tail = List.replicate (tail.length + 4) padding
        ∧ octets = reversed.reverse) := by
  rcases run_cons_eq_ok accepted with ⟨_, w, rfl, afterFirst⟩ | ⟨_, completes, _⟩ | ⟨rfl, _, later⟩
  · rcases run_cons_eq_ok afterFirst with
      ⟨_, x, rfl, afterSecond⟩ | ⟨_, completes, _⟩ | ⟨_, _, later⟩
    · rcases run_cons_eq_ok afterSecond with
        ⟨_, y, rfl, afterThird⟩ | ⟨_, completes, _⟩ | ⟨rfl, _, later⟩
      · rcases run_cons_eq_ok afterThird with
          ⟨_, z, rfl, following⟩ | ⟨rfl, _, rfl, read⟩ | ⟨_, open', _⟩
        · refine .inl ⟨w, x, y, z, rfl, rfl, rfl, rfl, ?_⟩
          rw [← run_group, run_character rfl, run_character rfl, run_character rfl,
            run_character rfl]
          exact following
        · refine .inr (.inl ⟨_, .onePad w x y, ?_⟩)
          rw [read, spelled_eq _ _ y.isLt (by decide)]
          simp [push, between]
        · exact absurd (by decide : 2 ≤ 3 ∧ 4 ≤ 3 + (0 + 1)) open'
      · exact absurd completes.2 (by decide : ¬4 ≤ 2 + (0 + 1))
      · rcases run_cons_eq_ok later with ⟨padded, _⟩ | ⟨rfl, _, rfl, read⟩ | ⟨_, open', _⟩
        · cases padded
        · refine .inr (.inl ⟨_, .twoPads w x, ?_⟩)
          rw [read, spelled_eq _ _ (by decide) (by decide)]
          simp [push, pad, between]
        · exact absurd (by decide : 2 ≤ 2 ∧ 4 ≤ 2 + (1 + 1)) open'
    · exact absurd completes.1 (by decide : ¬2 ≤ 1)
    · exact absurd later (run_ne_ok_of_broken rfl rfl _)
  · exact absurd completes.1 (by decide : ¬2 ≤ 0)
  · rcases run_padded_eq_ok rfl rfl later with ⟨only, read⟩
    refine .inr (.inr ⟨?_, read⟩)
    rw [List.replicate_succ]
    exact congrArg _ only

/-- Well-formed text is read as what it denotes. -/
theorem run_of_denotes {text : Text} (denoted : Denotes text octets) :
    (between reversed).run text = .ok (reversed.reverse ++ octets) := by
  induction denoted generalizing reversed with
  | nil => rw [List.append_nil]; rfl
  | twoPads first second =>
      have open' : ¬Completes (push (push (between reversed) first) second) := by
        intro completes
        exact absurd completes.2 (by decide : ¬4 ≤ 2 + (0 + 1))
      have closes : Completes (push (push (between reversed) first) second).pad :=
        (by decide : 2 ≤ 2 ∧ 4 ≤ 2 + (1 + 1))
      rw [run_character rfl, run_character rfl, run_padding_of_not_completes open',
        run_padding_of_completes closes, spelled_eq _ _ (by decide) (by decide)]
      simp [push, pad, between]
  | onePad first second third =>
      have closes : Completes (push (push (push (between reversed) first) second) third) :=
        (by decide : 2 ≤ 3 ∧ 4 ≤ 3 + (0 + 1))
      rw [run_character rfl, run_character rfl, run_character rfl,
        run_padding_of_completes closes, spelled_eq _ _ third.isLt (by decide)]
      simp [push, between]
  | group first second third fourth _ induction =>
      rw [run_group, induction]
      simp

/-- Reading goes by groups, so that only whole groups of padding can follow complete ones. -/
theorem exists_groups_of_run : ∀ {text : Text} {reversed : Octets}, text.length % 4 = 0 →
    (between reversed).run text = .ok octets →
    ∃ groups count read, text = groups ++ List.replicate count padding ∧ Denotes groups read
      ∧ (count = 0 ∨ padding ∉ groups) ∧ octets = reversed.reverse ++ read
  | [], reversed, _, accepted => by
      cases accepted
      exact ⟨[], 0, [], rfl, .nil, .inl rfl, (List.append_nil _).symm⟩
  | [_], _, uneven, _ => by simp at uneven
  | [_, _], _, uneven, _ => by simp at uneven
  | [_, _, _], _, uneven, _ => by simp at uneven
  | first :: second :: third :: fourth :: tail, reversed, even, accepted => by
      rcases run_between_eq_ok accepted with
        ⟨w, x, y, z, rfl, rfl, rfl, rfl, following⟩ | ⟨group, denoted, read⟩ | ⟨only, read⟩
      · have shorter : tail.length % 4 = 0 := by
          simp only [List.length_cons] at even
          omega
        rcases exists_groups_of_run shorter following with
          ⟨groups, count, later, rfl, denoted, apart, read⟩
        refine ⟨_, count, _, rfl, .group w x y z denoted, ?_, ?_⟩
        · refine apart.imp_right fun outside inside => ?_
          simp only [List.mem_cons, (character_ne_padding _).symm, false_or] at inside
          exact outside inside
        · rw [read]
          simp
      · exact ⟨_, 0, group, (List.append_nil _).symm, denoted, .inl rfl, read⟩
      · refine ⟨[], tail.length + 4, [], ?_, .nil, .inr List.not_mem_nil, ?_⟩
        · rw [List.nil_append, only]
        · rw [read, List.append_nil]

/-- Groups without padding leave the reader between two groups. -/
theorem run_groups_append {groups : Text} (denoted : Denotes groups octets)
    (complete : padding ∉ groups) (rest : Text) :
    (between reversed).run (groups ++ rest) = (between (octets.reverse ++ reversed)).run rest := by
  induction denoted generalizing reversed with
  | nil => rfl
  | twoPads first second => simp at complete
  | onePad first second third => simp at complete
  | @group first second third fourth rest _ _ induction =>
      have later : padding ∉ rest := fun inside => complete (by simp [inside])
      simp only [List.cons_append]
      rw [run_group, induction later]
      simp

end Reader

section Decoding

variable {text : Text} {octets : Octets}

theorem decodeCompact_eq (even : text.length % 4 = 0)
    (ascii : ∀ point ∈ text, point.val < 0x80) (opens : text.head? ≠ some padding) :
    decodeCompact text = (Reader.between []).run text := by
  have plain : ¬text.any (fun point => 0x80 ≤ point.val) = true := by
    rw [List.any_eq_true]
    intro foreign
    rcases foreign with ⟨point, member, high⟩
    have low := ascii point member
    simp only [decide_eq_true_eq] at high
    omega
  rw [decodeCompact, if_neg (Decidable.not_not.mpr even), if_neg plain, if_neg opens]
  rfl

/-- The texts that are read are the well-formed ones, and those padded by whole groups. -/
theorem decodeCompact_eq_ok_iff :
    decodeCompact text = .ok octets ↔ Denotes text octets ∨ Overpadded text octets := by
  constructor
  · intro accepted
    unfold decodeCompact at accepted
    split at accepted
    next => cases accepted
    next even =>
      split at accepted
      next => cases accepted
      next =>
        split at accepted
        next => cases accepted
        next opens =>
          rcases Reader.exists_groups_of_run (Decidable.not_not.mp even) accepted with
            ⟨groups, count, read, rfl, denoted, apart, rfl⟩
          rcases Nat.eq_zero_or_pos count with rfl | positive
          · rw [List.replicate_zero, List.append_nil]
            exact .inl denoted
          · have nonempty : groups ≠ [] := by
              intro empty
              rw [empty, List.nil_append, ← Nat.succ_pred_eq_of_pos positive] at opens
              exact opens rfl
            have whole : count = 4 * (count / 4 - 1 + 1) := by
              have length := denoted.length_mod
              simp only [List.length_append, List.length_replicate] at even
              omega
            refine .inr ⟨groups, count / 4 - 1, nonempty, ?_, denoted, by rw [← whole]⟩
            exact apart.resolve_left (Nat.ne_of_gt positive)
  · intro known
    rcases known with denoted | ⟨groups, count, nonempty, complete, denoted, rfl⟩
    · rw [decodeCompact_eq denoted.length_mod denoted.ascii denoted.head?_ne,
        Reader.run_of_denotes denoted]
      rfl
    · rw [decodeCompact_eq, Reader.run_groups_append denoted complete,
        Reader.run_replicate_padding rfl]
      · simp [Reader.between]
      · have length := denoted.length_mod
        simp only [List.length_append, List.length_replicate]
        omega
      · intro point member
        rcases List.mem_append.mp member with inGroups | pad
        · exact denoted.ascii point inGroups
        · rw [List.eq_of_mem_replicate pad]
          decide
      · rcases List.exists_cons_of_ne_nil nonempty with ⟨head, tail, rfl⟩
        exact denoted.head?_ne

end Decoding

end Base64

namespace Encoder

variable (encoder : Encoder) (text : Text)

theorem perform_decodeFromBase64_text :
    encoder.perform (.decodeFromBase64 (.text text))
      = match Base64.decodeCompact text.removeBlanks with
        | .ok octets => ⟨.ok (.octets octets), []⟩
        | .error reason => ⟨.error (.ofEncodingFault (.malformedBase64 reason)), []⟩ := by
  show Audited.ofExcept (((decodeFromBase64 text).map Value.octets).mapError _) = _
  rw [decodeFromBase64, Base64.decode]
  cases Base64.decodeCompact text.removeBlanks with
  | ok octets => rfl
  | error reason => rfl

theorem perform_decodeFromBase64_eq_ok_iff (octets : Octets) :
    encoder.perform (.decodeFromBase64 (.text text)) = ⟨.ok (.octets octets), []⟩
      ↔ Base64.Denotes text.removeBlanks octets ∨ Base64.Overpadded text.removeBlanks octets := by
  rw [perform_decodeFromBase64_text, ← Base64.decodeCompact_eq_ok_iff]
  cases Base64.decodeCompact text.removeBlanks with
  | ok read => simp
  | error reason => simp

/-- Reading a text as Base64 gives the octets that it denotes, blanks apart, or those of its groups
where it is padded by whole groups, and refuses every other text. It is the latter alone that are
read without being well-formed. -/
theorem decodeFromBase64_exact :
    (∀ octets, encoder.perform (.decodeFromBase64 (.text text)) = ⟨.ok (.octets octets), []⟩
        ↔ Base64.Denotes text.removeBlanks octets ∨ Base64.Overpadded text.removeBlanks octets)
      ∧ ((∃ octets, encoder.perform (.decodeFromBase64 (.text text)) = ⟨.ok (.octets octets), []⟩)
        ∨ ∃ notice, encoder.perform (.decodeFromBase64 (.text text))
            = ⟨.error (.error (.encoding notice (some EncodingFault.base64Name) none)), []⟩)
      ∧ ((∀ octets, encoder.perform (.decodeFromBase64 (.text text)) = ⟨.ok (.octets octets), []⟩
            ↔ Base64.Denotes text.removeBlanks octets)
          ↔ ¬∃ octets, Base64.Overpadded text.removeBlanks octets) := by
  refine ⟨perform_decodeFromBase64_eq_ok_iff encoder text, ?_, ?_⟩
  · rw [perform_decodeFromBase64_text]
    cases Base64.decodeCompact text.removeBlanks with
    | ok octets => exact .inl ⟨octets, rfl⟩
    | error reason => exact .inr ⟨(EncodingFault.malformedBase64 reason).notice, rfl⟩
  · simp only [perform_decodeFromBase64_eq_ok_iff]
    constructor
    · intro precise padded
      rcases padded with ⟨octets, beyond⟩
      exact beyond.not_denotes ((precise octets).mp (.inr beyond))
    · intro unpadded octets
      exact ⟨fun accepted => accepted.resolve_right fun beyond => unpadded ⟨octets, beyond⟩, .inl⟩

/-- A group of padding behind a complete one is passed over. -/
theorem decodeFromBase64_overpadded :
    decodeFromBase64 (Text.ofString "AAAA====") = .ok [0, 0, 0]
      ∧ ¬∃ octets, Base64.Denotes (Text.ofString "AAAA====").removeBlanks octets := by
  refine ⟨rfl, ?_⟩
  intro wellFormed
  rcases wellFormed with ⟨_, denoted⟩
  have beyond : Base64.Overpadded (Text.ofString "AAAA====") [0, 0, 0] :=
    ⟨Text.ofString "AAAA", 0, by decide, by decide, .group 0 0 0 0 .nil, rfl⟩
  exact beyond.not_denotes denoted

end Encoder

end Escaping
