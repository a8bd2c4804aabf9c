import Escaping.Proofs.Canonical.Ledger

/-!
What the account of a decoding says about its turns. Each scheme counts the passes in which its turn
matches, and the schemes stand in the order of their first such turns. All the passes were used up
exactly where a turn matched in each of them, and a text was changed exactly where any did. It is
changed without a report where that was one single turn.
-/

namespace Escaping

/-- Of things in an order, the keys without repetition stand in the order of the first thing that
each of them belongs to. -/
theorem pairwise_eraseDups_map {Item Key : Type} [DecidableEq Key] (key : Item → Key)
    {before : Item → Item → Prop} {items : List Item} (ordered : items.Pairwise before) :
    (items.map key).eraseDups.Pairwise fun earlier later =>
      ∃ first ∈ items, key first = earlier
        ∧ ∀ item ∈ items, key item = later → before first item := by
  match items with
  | [] => exact .nil
  | head :: rest =>
      rcases List.pairwise_cons.mp ordered with ⟨ahead, following⟩
      have others : (rest.map key).filter (fun each => !each == key head)
          = (rest.filter fun item => !key item == key head).map key := List.filter_map
      have shorter : (rest.filter fun item => !key item == key head).Sublist rest :=
        List.filter_sublist
      -- The other keys do not belong to the head, so only the rest counts for them.
      have inRest : ∀ later ∈ ((rest.filter fun item => !key item == key head).map key).eraseDups,
          ∀ item ∈ head :: rest, key item = later →
            item ∈ rest.filter fun item => !key item == key head := by
        intro later member item inItems belongs
        rcases List.mem_map.mp (List.mem_eraseDups.mp member) with ⟨other, kept, same⟩
        have different := (List.mem_filter.mp kept).2
        rw [same, ← belongs] at different
        rcases List.mem_cons.mp inItems with equal | inRest
        · simp [equal] at different
        · exact List.mem_filter.mpr ⟨inRest, different⟩
      rw [List.map_cons, List.eraseDups_cons, others, List.pairwise_cons]
      constructor
      · intro later member
        refine ⟨head, List.mem_cons_self, rfl, ?_⟩
        intro item inItems belongs
        exact ahead item (shorter.subset (inRest later member item inItems belongs))
      · apply (pairwise_eraseDups_map key (following.sublist shorter)).imp_of_mem
        intro earlier later _ member behind
        rcases behind with ⟨first, kept, belongs, precedes⟩
        refine ⟨first, List.mem_cons_of_mem head (shorter.subset kept), belongs, ?_⟩
        intro item inItems also
        exact precedes item (inRest later member item inItems also) also
termination_by items.length
decreasing_by exact Nat.lt_succ_of_le (List.length_filter_le _ _)

variable {schemes : List Scheme} {scheme : Scheme} {text : Text}

namespace Turn

/-- The turn matches, and none of its scheme has matched before it. -/
def IsFirst (schemes : List Scheme) (text : Text) (turn : Turn) : Prop :=
  turn.Matches schemes text
    ∧ ∀ sooner < turn.pass, ¬Matches schemes text ⟨sooner, turn.scheme⟩

theorem exists_isFirst {pass : Nat} (matching : Matches schemes text ⟨pass, scheme⟩) :
    ∃ first ≤ pass, IsFirst schemes text ⟨first, scheme⟩ := by
  induction pass using Nat.strongRecOn with
  | ind pass induction =>
      by_cases sooner : ∃ sooner < pass, Matches schemes text ⟨sooner, scheme⟩
      · rcases sooner with ⟨sooner, before, also⟩
        rcases induction sooner before also with ⟨first, within, isFirst⟩
        exact ⟨first, Nat.le_trans within (Nat.le_of_lt before), isFirst⟩
      · refine ⟨pass, Nat.le_refl pass, matching, ?_⟩
        intro earlier before also
        exact sooner ⟨earlier, before, also⟩

end Turn

namespace Decoding

/-- The account of a decoding agrees with the turns of its passes. -/
structure Consistent (schemes : List Scheme) (text : Text) (decoding : Decoding) : Prop where
  distinct : decoding.fired.Nodup
  keys : ∀ scheme, scheme ∈ decoding.fired ↔ ∃ count, decoding.counts.lookup scheme = some count
  matching : ∀ scheme,
    scheme ∈ decoding.fired ↔ ∃ pass < 5, Turn.Matches schemes text ⟨pass, scheme⟩
  ordered : decoding.fired.Pairwise fun earlier later =>
    ∃ first second, Turn.IsFirst schemes text ⟨first, earlier⟩
      ∧ Turn.IsFirst schemes text ⟨second, later⟩
      ∧ Turn.Before schemes ⟨first, earlier⟩ ⟨second, later⟩
  counted : ∀ scheme count, decoding.counts.lookup scheme = some count →
    count = ((List.range 5).countP fun pass => decide (Turn.Matches schemes text ⟨pass, scheme⟩))
      ∧ 1 ≤ count ∧ count ≤ 5
  exhausted : decoding.exhausted = true
    ↔ ∀ pass < 5, ∃ scheme, Turn.Matches schemes text ⟨pass, scheme⟩
  limited : decoding.exhausted = false →
    ∀ scheme count, decoding.counts.lookup scheme = some count → count ≤ 4
  unchanged : decoding.fired = [] ↔ decoding.text = text

theorem lookup_counts_all (schemes : List Scheme) (text : Text) (scheme : Scheme) :
    (all schemes text).counts.lookup scheme
      = if scheme ∈ matched schemes maxPasses text then
          some ((matched schemes maxPasses text).count scheme)
        else none := by
  rw [counts_all, Tally.lookup_map]
  simp only [List.mem_eraseDups]

theorem lookup_counts_all_eq_some {count : Nat}
    (counted : (all schemes text).counts.lookup scheme = some count) :
    scheme ∈ matched schemes maxPasses text
      ∧ count = (matched schemes maxPasses text).count scheme := by
  rw [lookup_counts_all] at counted
  split at counted
  next member => exact ⟨member, (Option.some.inj counted).symm⟩
  next => cases counted

/-- Nothing is taken down exactly where nothing is changed. -/
theorem matched_eq_nil_iff (schemes : List Scheme) (text : Text) :
    matched schemes maxPasses text = [] ↔ (all schemes text).text = text := by
  by_cases settled : Settled schemes text
  · rw [all_of_settled settled, matched_of_settled settled]
    exact ⟨fun _ => rfl, fun _ => rfl⟩
  · have shorter := length_text_all_lt settled
    have passed := length_passes_le_matched schemes maxPasses text
    have limit : maxPasses = 4 + 1 := rfl
    rw [limit, passes_of_not_settled settled, List.length_cons, ← limit] at passed
    constructor
    · intro nothing
      rw [nothing] at passed
      cases passed
    · intro same
      rw [same] at shorter
      exact absurd shorter (Nat.lt_irrefl _)

theorem fired_all_eq_nil_iff (schemes : List Scheme) (text : Text) :
    (all schemes text).fired = [] ↔ (all schemes text).text = text := by
  rw [fired_all, ← matched_eq_nil_iff]
  cases matched schemes maxPasses text with
  | nil => exact ⟨fun _ => rfl, fun _ => rfl⟩
  | cons first rest =>
      rw [List.eraseDups_cons]
      exact iff_of_false (List.cons_ne_nil _ _) (List.cons_ne_nil _ _)

section Distinct

variable (distinct : schemes.Nodup)
include distinct

/-- The schemes that fired stand in the order of their first turns. -/
theorem pairwise_fired_all (text : Text) :
    (all schemes text).fired.Pairwise fun earlier later =>
      ∃ first second, Turn.IsFirst schemes text ⟨first, earlier⟩
        ∧ Turn.IsFirst schemes text ⟨second, later⟩
        ∧ Turn.Before schemes ⟨first, earlier⟩ ⟨second, later⟩ := by
  rw [fired_all, matched_eq_map_turns distinct]
  have ordered := pairwise_eraseDups_map Turn.scheme (pairwise_turns distinct maxPasses text)
  apply ordered.imp_of_mem
  intro earlier later _ member precedes
  rcases precedes with ⟨turn, listed, same, ahead⟩
  subst same
  rcases List.mem_map.mp (List.mem_eraseDups.mp member) with ⟨other, alsoListed, same⟩
  subst same
  rcases mem_turns_iff.mp alsoListed with ⟨within, otherMatching⟩
  rcases Turn.exists_isFirst (mem_turns_iff.mp listed).2 with ⟨first, notAfter, isFirst⟩
  rcases Turn.exists_isFirst otherMatching with ⟨second, bound, isSecond⟩
  have secondListed : ⟨second, other.scheme⟩ ∈ turns schemes maxPasses text :=
    mem_turns_iff.mpr ⟨Nat.lt_of_le_of_lt bound within, isSecond.1⟩
  have before := ahead _ secondListed rfl
  refine ⟨first, second, isFirst, isSecond, ?_⟩
  unfold Turn.Before at before ⊢
  dsimp only at before ⊢
  omega

/-- All passes are used up where a turn matches in each of them. -/
theorem exhausted_all_iff_matches (text : Text) :
    (all schemes text).exhausted = true
      ↔ ∀ pass < maxPasses, ∃ scheme, Turn.Matches schemes text ⟨pass, scheme⟩ := by
  rw [exhausted_all_iff]
  constructor
  · intro full pass within
    rw [Turn.exists_matches_iff distinct]
    exact not_settled_of_lt_length_passes (full.symm ▸ within)
  · intro matching
    apply Nat.le_antisymm (length_passes_le schemes maxPasses text)
    apply Nat.le_of_not_lt
    intro fewer
    have unsettled := (Turn.exists_matches_iff distinct).mp (matching _ fewer)
    exact unsettled (settled_of_length_passes_lt fewer)

theorem count_matched_le (scheme : Scheme) (text : Text) :
    (matched schemes maxPasses text).count scheme ≤ maxPasses := by
  rw [count_matched distinct]
  exact Nat.le_trans List.countP_le_length (Nat.le_of_eq List.length_range)

/-- A scheme that matches in every pass uses the passes up. -/
theorem exhausted_of_count_matched (scheme : Scheme) (text : Text)
    (full : (matched schemes maxPasses text).count scheme = maxPasses) :
    (all schemes text).exhausted = true := by
  rw [count_matched distinct] at full
  have everywhere := List.countP_eq_length.mp (full.trans List.length_range.symm)
  rw [exhausted_all_iff_matches distinct]
  intro pass within
  exact ⟨scheme, of_decide_eq_true (everywhere pass (List.mem_range.mpr within))⟩

theorem consistent_all (text : Text) : (all schemes text).Consistent schemes text where
  distinct := by
    apply (pairwise_fired_all distinct text).imp
    intro earlier later ordered same
    subst same
    rcases ordered with ⟨first, second, isFirst, isSecond, before⟩
    -- A scheme has one first turn only.
    have equal : first = second := by
      apply Nat.le_antisymm
      · exact Nat.le_of_not_lt fun sooner => isFirst.2 second sooner isSecond.1
      · exact Nat.le_of_not_lt fun sooner => isSecond.2 first sooner isFirst.1
    exact Turn.Before.irrefl (equal ▸ before)
  keys scheme := by
    rw [fired_all, List.mem_eraseDups, lookup_counts_all]
    split
    next member => exact ⟨fun _ => ⟨_, rfl⟩, fun _ => member⟩
    next absent => exact ⟨fun member => absurd member absent, fun ⟨_, counted⟩ => nomatch counted⟩
  matching scheme := by
    rw [fired_all, List.mem_eraseDups]
    exact mem_matched_iff distinct
  ordered := pairwise_fired_all distinct text
  counted scheme count counted := by
    rcases lookup_counts_all_eq_some counted with ⟨member, same⟩
    subst same
    exact ⟨count_matched distinct scheme maxPasses text, List.count_pos_iff.mpr member,
      count_matched_le distinct scheme text⟩
  exhausted := exhausted_all_iff_matches distinct text
  limited complete scheme count counted := by
    rcases lookup_counts_all_eq_some counted with ⟨_, same⟩
    subst same
    apply Nat.le_of_lt_succ
    apply Nat.lt_of_le_of_ne (count_matched_le distinct scheme text)
    intro full
    rw [exhausted_of_count_matched distinct scheme text full] at complete
    cases complete
  unchanged := fired_all_eq_nil_iff schemes text

/-- One turn matches, and no other one does, where one scheme is taken down once. -/
theorem length_matched_eq_one_iff (text : Text) :
    (matched schemes maxPasses text).length = 1
      ↔ ∃ turn : Turn, (turn.pass < maxPasses ∧ turn.Matches schemes text)
        ∧ ∀ other : Turn, other.pass < maxPasses ∧ other.Matches schemes text → other = turn := by
  have ordered := pairwise_turns distinct maxPasses text
  rw [matched_eq_map_turns distinct, List.length_map]
  simp only [← mem_turns_iff]
  generalize turns schemes maxPasses text = listed at ordered ⊢
  match listed with
  | [] => simp
  | [turn] => simp
  | first :: second :: rest =>
      constructor
      · intro one
        simp at one
      · intro single
        rcases single with ⟨turn, _, only⟩
        have firstSame := only first List.mem_cons_self
        have secondSame := only second (List.mem_cons_of_mem first List.mem_cons_self)
        have before := (List.pairwise_cons.mp ordered).1 second List.mem_cons_self
        rw [firstSame, secondSame] at before
        exact absurd before Turn.Before.irrefl

end Distinct

end Decoding

namespace Canonicalizer

def withSink (canonicalizer : Canonicalizer) (sink : Sink) : Canonicalizer :=
  { canonicalizer with sink := sink }

/-- Nothing is reported, to whatever sink, exactly where no condition is detected. -/
theorem canonicalize_unreported_iff (canonicalizer : Canonicalizer) (policy : Policy)
    (input result : Text) :
    (∀ sink, (canonicalizer.withSink sink).canonicalize policy (.text input)
        = ⟨.ok (.text result), []⟩)
      ↔ (Decoding.all canonicalizer.schemes input).conditions = []
        ∧ result = (Decoding.all canonicalizer.schemes input).text := by
  constructor
  · intro unreported
    have called := unreported .recording
    have events := events_canonicalize_text (canonicalizer.withSink .recording) policy input
    have returned := outcome_canonicalize_text (canonicalizer.withSink .recording) policy input
    rw [called] at events returned
    constructor
    · apply Decidable.not_not.mp
      intro suspected
      have detected : (Decoding.all (canonicalizer.withSink .recording).schemes input).conditions
        ≠ [] := suspected
      rw [reportsOn, if_neg detected, List.flatMap_singleton] at events
      cases events
    · split at returned
      next => cases returned
      next => exact Value.text.inj (Except.ok.inj returned)
  · intro both sink
    rw [canonicalize_text, canonicalizeText_of_conditions_nil (canonicalizer.withSink sink) policy
      both.1, both.2]
    rfl

end Canonicalizer

/-- Keeping the account in two collections comes to the tally that decoding gives, and this agrees
with the turns of the passes. A canonicalizer changes a text without a report, whatever its policy
and its sink, exactly where one scheme has matched in one pass. -/
theorem Decoding.all_consistent (distinct : schemes.Nodup) (text : Text) :
    Progress.passes schemes maxPasses text .empty
        = ⟨(all schemes text).text,
          ⟨fun scheme => (all schemes text).counts.lookup scheme, (all schemes text).fired⟩,
          (all schemes text).exhausted⟩
      ∧ (all schemes text).Consistent schemes text
      ∧ ∀ (canonicalizer : Canonicalizer) (policy : Policy), canonicalizer.schemes = schemes →
        ((∃ result, result ≠ text ∧ ∀ sink,
            (canonicalizer.withSink sink).canonicalize policy (.text text)
              = ⟨.ok (.text result), []⟩)
          ↔ ∃ turn : Turn, (turn.pass < 5 ∧ turn.Matches schemes text)
            ∧ ∀ other : Turn, other.pass < 5 ∧ other.Matches schemes text → other = turn) := by
  refine ⟨Progress.passes_empty schemes text, consistent_all distinct text, ?_⟩
  intro canonicalizer policy same
  subst same
  have once := length_matched_eq_one_iff distinct text
  have unsuspected := conditions_all_eq_nil_iff canonicalizer.schemes text
  have unchanged := matched_eq_nil_iff canonicalizer.schemes text
  rw [← List.length_eq_zero_iff] at unchanged
  simp only [Canonicalizer.canonicalize_unreported_iff]
  constructor
  · intro changed
    rcases changed with ⟨result, different, plain, decoded⟩
    subst decoded
    have few := unsuspected.mp plain
    have positive := Nat.pos_of_ne_zero fun nothing => different (unchanged.mp nothing)
    exact once.mp (Nat.le_antisymm few positive)
  · intro single
    have one := once.mpr single
    refine ⟨_, ?_, unsuspected.mpr (Nat.le_of_eq one), rfl⟩
    intro same
    have nothing := unchanged.mpr same
    omega

/-- The first scheme of a list may be the last one to match. -/
theorem Decoding.all_consistent_percentAroundHtml :
    [Scheme.html, .percent].Nodup
      ∧ all [.html, .percent] (Text.ofString "%26amp;lt;")
        = ⟨Text.ofString "<", [(.percent, 1), (.html, 2)], false⟩
      ∧ (all [.html, .percent] (Text.ofString "%26amp;lt;")).Consistent [.html, .percent]
        (Text.ofString "%26amp;lt;") := by
  have distinct : [Scheme.html, .percent].Nodup := by decide
  refine ⟨distinct, by decide +kernel, ?_⟩
  exact (all_consistent distinct (Text.ofString "%26amp;lt;")).2.1

end Escaping
