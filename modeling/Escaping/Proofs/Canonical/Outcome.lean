import Escaping.Canonical.Canonicalizer
import Escaping.Proofs.Canonical.Passes

/-!
What a call of a canonicalizer comes to. Decoding decides on everything: a call reports once if a
condition was detected and otherwise not at all, it ends in the signal if the policy restricts one
of the conditions, and else it returns the decoded text. What the sink makes of the report shows
among the events and nowhere else.
-/

namespace Escaping

namespace Decoding

theorem multiple_mem_conditions_iff (decoding : Decoding) :
    .multiple ∈ decoding.conditions
      ↔ decoding.exhausted = true ∨ ∃ entry ∈ decoding.counts, 1 < entry.2 := by
  have counted : (∃ entry ∈ decoding.namedCounts, 1 < entry.2)
      ↔ ∃ entry ∈ decoding.counts, 1 < entry.2 := by
    constructor
    · rintro ⟨_, named, repeated⟩
      rcases List.mem_map.mp named with ⟨entry, member, rfl⟩
      exact ⟨entry, member, Int.ofNat_lt.mp repeated⟩
    · rintro ⟨entry, member, repeated⟩
      exact ⟨_, List.mem_map_of_mem member, Int.ofNat_lt.mpr repeated⟩
  rw [conditions, Condition.multiple_mem_detect_iff, counted]

theorem mixed_mem_conditions_iff (decoding : Decoding) :
    .mixed ∈ decoding.conditions ↔ 1 < decoding.fired.length := by
  rw [conditions, Condition.mixed_mem_detect_iff, firedNames, List.length_map]

theorem all_of_settled {schemes : List Scheme} {text : Text} (settled : Settled schemes text) :
    all schemes text = ⟨text, [], false⟩ := by
  rw [all, continueFor_eq, passes_of_settled settled, matched_of_settled settled]
  rfl

theorem length_passes_le_matched (schemes : List Scheme) (limit : Nat) (text : Text) :
    (passes schemes limit text).length ≤ (matched schemes limit text).length := by
  induction limit generalizing text with
  | zero => exact Nat.le_refl 0
  | succ limit induction =>
      by_cases settled : Settled schemes text
      · rw [passes_of_settled settled]
        exact Nat.zero_le _
      · have progress := Pass.length_matched_run_pos settled
        have following := induction (Pass.run schemes text).text
        rw [passes_of_not_settled settled, matched_succ, List.length_cons, List.length_append]
        omega

/-- A condition is detected wherever schemes matched twice, be they one or two. -/
theorem conditions_all_eq_nil_iff (schemes : List Scheme) (text : Text) :
    (all schemes text).conditions = [] ↔ (matched schemes maxPasses text).length ≤ 1 := by
  have counts := counts_all schemes text
  have fired := fired_all schemes text
  have passed := length_passes_le_matched schemes maxPasses text
  generalize matched schemes maxPasses text = found at counts fired passed ⊢
  rw [List.eq_nil_iff_forall_not_mem]
  constructor
  · intro unsuspected
    have once := unsuspected .multiple
    have alone := unsuspected .mixed
    rw [multiple_mem_conditions_iff, counts] at once
    rw [mixed_mem_conditions_iff, fired] at alone
    match found with
    | [] => exact Nat.zero_le 1
    | [_] => exact Nat.le_refl 1
    | first :: second :: rest =>
        by_cases same : second = first
        · subst same
          apply absurd _ once
          refine .inr ⟨_, List.mem_map_of_mem (List.mem_eraseDups.mpr List.mem_cons_self), ?_⟩
          rw [List.count_cons_self, List.count_cons_self]
          omega
        · apply absurd _ alone
          rw [List.eraseDups_cons, List.filter_cons_of_pos (by simpa using same),
            List.eraseDups_cons, List.length_cons, List.length_cons]
          omega
  · intro few condition member
    have complete : (all schemes text).exhausted ≠ true := by
      rw [Ne, exhausted_all_iff]
      have limit : maxPasses = 5 := rfl
      omega
    cases condition with
    | multiple =>
        rw [multiple_mem_conditions_iff, counts] at member
        rcases member.resolve_left complete with ⟨_, counted, repeated⟩
        rcases List.mem_map.mp counted with ⟨scheme, _, rfl⟩
        exact Nat.not_le_of_lt repeated (Nat.le_trans List.count_le_length few)
    | mixed =>
        rw [mixed_mem_conditions_iff, fired] at member
        match found with
        | [] => simp at member
        | [_] => simp [List.eraseDups_cons] at member
        | _ :: _ :: _ => simp at few

end Decoding

namespace IntrusionSignal

theorem name_mem_map_iff (condition : Condition) (conditions : List Condition) :
    condition.name ∈ conditions.map Condition.name ↔ condition ∈ conditions := by
  rw [List.mem_map]
  constructor
  · rintro ⟨each, member, same⟩
    have equal : each = condition := by
      revert same
      cases each <;> cases condition <;> decide
    exact equal ▸ member
  · exact fun member => ⟨condition, member, rfl⟩

theorem multiple_ofDecoding_iff (decoding : Decoding) :
    (ofDecoding decoding).multiple = true ↔ .multiple ∈ decoding.conditions := by
  rw [multiple, decide_eq_true_iff]
  exact name_mem_map_iff .multiple decoding.conditions

theorem mixed_ofDecoding_iff (decoding : Decoding) :
    (ofDecoding decoding).mixed = true ↔ .mixed ∈ decoding.conditions := by
  rw [mixed, decide_eq_true_iff]
  exact name_mem_map_iff .mixed decoding.conditions

end IntrusionSignal

/-- A policy blocks where it restricts one of the detected conditions. -/
theorem Policy.blocks_ofDecoding (policy : Policy) (decoding : Decoding) :
    policy.blocks (.ofDecoding decoding) = decoding.conditions.any policy.restricts := by
  rw [Bool.eq_iff_iff, blocks_eq, Bool.or_eq_true, Bool.and_eq_true, Bool.and_eq_true,
    IntrusionSignal.multiple_ofDecoding_iff, IntrusionSignal.mixed_ofDecoding_iff,
    List.any_eq_true]
  constructor
  · rintro (⟨member, restricted⟩ | ⟨member, restricted⟩)
    · exact ⟨.multiple, member, restricted⟩
    · exact ⟨.mixed, member, restricted⟩
  · rintro ⟨condition, member, restricted⟩
    cases condition with
    | multiple => exact .inl ⟨member, restricted⟩
    | mixed => exact .inr ⟨member, restricted⟩

namespace Canonicalizer

variable (canonicalizer : Canonicalizer) (policy : Policy)

def reportOn (input : Text) : Report :=
  ⟨.ofDecoding (Decoding.all canonicalizer.schemes input), .text input,
    policy.decision (.ofDecoding (Decoding.all canonicalizer.schemes input))⟩

/-- The reports on a text: one if a condition is detected in it. -/
def reportsOn (input : Text) : List Report :=
  if (Decoding.all canonicalizer.schemes input).conditions = [] then []
  else [canonicalizer.reportOn policy input]

theorem length_reportsOn (input : Text) :
    (canonicalizer.reportsOn policy input).length
      = if (Decoding.all canonicalizer.schemes input).conditions = [] then 0 else 1 := by
  unfold reportsOn
  split
  · rfl
  · rfl

theorem eq_of_mem_reportsOn (input : Text) {report : Report}
    (member : report ∈ canonicalizer.reportsOn policy input) :
    report = canonicalizer.reportOn policy input := by
  unfold reportsOn at member
  split at member
  · cases member
  · exact List.mem_singleton.mp member

theorem blocked_reportOn (input : Text) :
    (canonicalizer.reportOn policy input).blocked
      = (Decoding.all canonicalizer.schemes input).conditions.any policy.restricts :=
  policy.blocks_ofDecoding _

/-- Without a condition there is nothing to report and nothing to block. -/
theorem canonicalizeText_eq (input : Text) :
    canonicalizer.canonicalizeText policy input
      = ⟨if policy.blocks (.ofDecoding (Decoding.all canonicalizer.schemes input)) then
          .error (.error (.intrusion (.ofDecoding (Decoding.all canonicalizer.schemes input))))
        else .ok (Decoding.all canonicalizer.schemes input).text,
        (canonicalizer.reportsOn policy input).flatMap canonicalizer.sink.tell⟩ := by
  unfold canonicalizeText reportsOn
  by_cases plain : (Decoding.all canonicalizer.schemes input).conditions = []
  · have tolerated : policy.blocks
        (.ofDecoding (Decoding.all canonicalizer.schemes input)) = false := by
      rw [Policy.blocks_ofDecoding, plain, List.any_nil]
    simp [plain, tolerated]
  · simp [plain, reportOn]

theorem canonicalizeText_of_conditions_nil {input : Text}
    (plain : (Decoding.all canonicalizer.schemes input).conditions = []) :
    canonicalizer.canonicalizeText policy input
      = ⟨.ok (Decoding.all canonicalizer.schemes input).text, []⟩ := by
  simp only [canonicalizeText, plain, List.isEmpty_nil, if_true]

theorem canonicalizeText_of_settled {input : Text} (settled : Settled canonicalizer.schemes input) :
    canonicalizer.canonicalizeText policy input = ⟨.ok input, []⟩ := by
  have decoded := Decoding.all_of_settled settled
  have plain : (Decoding.all canonicalizer.schemes input).conditions = [] := by
    rw [decoded]
    rfl
  rw [canonicalizeText_of_conditions_nil canonicalizer policy plain, decoded]

/-- The empty text is no exception, since nothing matches in it. -/
theorem canonicalize_text (input : Text) :
    canonicalizer.canonicalize policy (.text input)
      = (canonicalizer.canonicalizeText policy input).andThen fun canonical =>
        ⟨.ok (.text canonical), []⟩ := by
  unfold canonicalize
  split
  next empty =>
    have nothing : input = [] := by simpa [Value.isTruthy] using empty
    subst nothing
    have settled : Settled canonicalizer.schemes [] := fun scheme _ => scheme.codec.plain_nil
    rw [canonicalizeText_of_settled canonicalizer policy settled]
    rfl
  next => rfl

/-- A text is blocked by its signal or decoded. -/
theorem outcome_canonicalize_text (input : Text) :
    (canonicalizer.canonicalize policy (.text input)).outcome
      = if policy.blocks (.ofDecoding (Decoding.all canonicalizer.schemes input)) then
          .error (.error (.intrusion (.ofDecoding (Decoding.all canonicalizer.schemes input))))
        else .ok (.text (Decoding.all canonicalizer.schemes input).text) := by
  rw [canonicalize_text, canonicalizeText_eq]
  cases policy.blocks (.ofDecoding (Decoding.all canonicalizer.schemes input)) with
  | true => rfl
  | false => rfl

/-- All that can be observed beside the outcome is what the sink makes of the reports. -/
theorem events_canonicalize_text (input : Text) :
    (canonicalizer.canonicalize policy (.text input)).events
      = (canonicalizer.reportsOn policy input).flatMap canonicalizer.sink.tell := by
  rw [canonicalize_text, canonicalizeText_eq]
  cases policy.blocks (.ofDecoding (Decoding.all canonicalizer.schemes input)) with
  | true => rfl
  | false => exact List.append_nil _

end Canonicalizer

end Escaping
