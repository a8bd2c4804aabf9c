import Escaping.Proofs.Canonical.Layers

/-!
Encoding more than once is found out. The outermost layer of a default scheme comes off in the first
pass. The layer beneath it comes off in the same pass or opens the next one, whatever it holds, so
that both are counted before the passes are used up.
-/

namespace Escaping

section Intrusion

variable {first second : Scheme} {inner : List Scheme} {text : Text}

/-- The two outermost layers are matched before the limit, however many there are beneath them. -/
theorem Decoding.matched_outermost (limit : Nat)
    (known : ∀ layer ∈ first :: second :: inner, layer ∈ Scheme.defaults)
    (special : ∃ point ∈ text, point.isAlphanumeric = false) :
    ∃ following,
      Decoding.matched Scheme.defaults (limit + 2) (encodeLayers (first :: second :: inner) text)
        = first :: following
      ∧ second ∈ following := by
  have firstKnown := known first List.mem_cons_self
  have secondKnown := known second (by simp)
  have beneath : ∀ layer ∈ second :: inner, layer ∈ Scheme.defaults := fun layer member =>
    known layer (List.mem_cons_of_mem first member)
  have innermost : ∀ layer ∈ inner, layer ∈ Scheme.defaults := fun layer member =>
    beneath layer (List.mem_cons_of_mem second member)
  rcases Scheme.run_encode (fun _ member => member) firstKnown
    (exists_special_encodeLayers beneath special) with ⟨later, subset, ran⟩
  rw [encodeLayers, Scheme.decode_encode (Scheme.carries_encode firstKnown secondKnown _)] at ran
  -- The turn of the second layer comes later in the same pass, or not before the next one.
  by_cases turn : second ∈ later
  · rcases Scheme.run_encode (fun each member => subset member) turn
      (exists_special_encodeLayers innermost special) with ⟨_, _, again⟩
    rw [again] at ran
    rw [Decoding.matched_succ, encodeLayers, encodeLayers, ran]
    exact ⟨_, rfl, List.mem_cons_self⟩
  · have nothing := Scheme.settled_encode_of_not_mem secondKnown
      (fun each member => subset member) turn (encodeLayers inner text)
    rcases Scheme.run_encode (fun _ member => member) secondKnown
      (exists_special_encodeLayers innermost special) with ⟨_, _, again⟩
    rw [Pass.run_of_settled nothing] at ran
    rw [Decoding.matched_succ, encodeLayers, encodeLayers, ran, Decoding.matched_succ, again]
    exact ⟨_, rfl, List.mem_cons_self⟩

/-- Two or more layers of the default schemes are an intrusion, whatever text they hold. -/
theorem Canonicalizer.canonicalize_encodeLayers_intrusion (sink : Sink) {policy : Policy}
    (restricted : ∀ condition, policy.restricts condition = true)
    (known : ∀ layer ∈ first :: second :: inner, layer ∈ Scheme.defaults)
    (special : ∃ point ∈ text, point.isAlphanumeric = false) :
    ∃ signal : IntrusionSignal,
      ((Canonicalizer.standard sink).canonicalize policy
        (.text (encodeLayers (first :: second :: inner) text))).outcome
        = .error (.error (.intrusion signal))
      ∧ (first = second → Condition.multiple.name ∈ signal.conditions)
      ∧ (first ≠ second → Condition.mixed.name ∈ signal.conditions) := by
  rcases Decoding.matched_outermost 3 known special with ⟨following, matched, member⟩
  rw [Canonicalizer.outcome_canonicalize_text, Canonicalizer.standard]
  generalize encodeLayers (first :: second :: inner) text = input at matched ⊢
  have limit : Decoding.maxPasses = 3 + 2 := rfl
  have counts := Decoding.counts_all Scheme.defaults input
  have fired := Decoding.fired_all Scheme.defaults input
  rw [limit, matched] at counts fired
  have multiple : first = second → .multiple ∈ (Decoding.all Scheme.defaults input).conditions := by
    intro same
    rw [Decoding.multiple_mem_conditions_iff, counts]
    refine .inr ⟨_, List.mem_map_of_mem (List.mem_eraseDups.mpr List.mem_cons_self), ?_⟩
    have again := List.count_pos_iff.mpr member
    rw [← same] at again
    rw [List.count_cons_self]
    exact Nat.succ_lt_succ again
  have mixed : first ≠ second → .mixed ∈ (Decoding.all Scheme.defaults input).conditions := by
    intro different
    rw [Decoding.mixed_mem_conditions_iff, fired, List.eraseDups_cons, List.length_cons]
    have other : second ∈ (following.filter fun each => !each == first).eraseDups := by
      rw [List.mem_eraseDups, List.mem_filter]
      exact ⟨member, by simpa using Ne.symm different⟩
    exact Nat.succ_lt_succ (List.length_pos_of_mem other)
  have blocked : policy.blocks (.ofDecoding (Decoding.all Scheme.defaults input)) = true := by
    rw [Policy.blocks_eq, restricted .multiple, restricted .mixed, Bool.and_true, Bool.and_true,
      Bool.or_eq_true]
    by_cases same : first = second
    · exact .inl ((IntrusionSignal.multiple_ofDecoding_iff _).mpr (multiple same))
    · exact .inr ((IntrusionSignal.mixed_ofDecoding_iff _).mpr (mixed same))
  rw [if_pos blocked]
  exact ⟨_, rfl, fun same => List.mem_map_of_mem (multiple same),
    fun different => List.mem_map_of_mem (mixed different)⟩

theorem Canonicalizer.canonicalize_encodeLayers_intrusion_script :
    ∃ signal : IntrusionSignal,
      ((Canonicalizer.standard .recording).canonicalize .strict
        (.text (encodeLayers [.percent, .html, .javaScript] (Text.ofString "<script>")))).outcome
        = .error (.error (.intrusion signal))
      ∧ Condition.mixed.name ∈ signal.conditions := by
  have restricted : ∀ condition, Policy.strict.restricts condition = true := by
    intro condition
    cases condition <;> rfl
  have special : ∃ point ∈ Text.ofString "<script>", point.isAlphanumeric = false :=
    ⟨.ofChar '<', by decide, by decide⟩
  rcases canonicalize_encodeLayers_intrusion .recording restricted
    (by decide : ∀ layer ∈ [Scheme.percent, .html, .javaScript], layer ∈ Scheme.defaults) special
    with ⟨signal, blocked, _, mixed⟩
  exact ⟨signal, blocked, mixed (by decide)⟩

end Intrusion

end Escaping
