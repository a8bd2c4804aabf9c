import Escaping.Canonical.Decoding
import Escaping.Proofs.Codec.Contraction

/-!
Passes with and without a limit. A pass matches nothing exactly where the text is settled, and each
pass that does match something makes the text shorter. So passes without a limit come to an end, and
limited decoding gives the same text unless it is cut off.
-/

namespace Escaping

/-- No scheme of the list has an escape anywhere in the text. -/
def Settled (schemes : List Scheme) (text : Text) : Prop :=
  ∀ scheme ∈ schemes, scheme.codec.Plain text

namespace Tally

variable {Key : Type} [DecidableEq Key]

/-- Counts a list of keys from the first one on. -/
def ofList (keys : List Key) : Tally Key := keys.foldl (fun tally key => add key tally) []

/-- The entry of the first key takes all its occurrences, and the others are counted apart. -/
private theorem foldl_add_cons (key : Key) (count : Nat) (tally : Tally Key) (keys : List Key) :
    keys.foldl (fun tally each => add each tally) ((key, count) :: tally)
      = (key, count + keys.count key)
        :: (keys.filter fun each => !each == key).foldl (fun tally each => add each tally)
          tally := by
  induction keys generalizing count tally with
  | nil => rfl
  | cons head rest induction =>
      rw [List.foldl_cons, add]
      by_cases same : key = head
      · subst same
        rw [if_pos rfl, induction, List.count_cons_self, List.filter_cons_of_neg (by simp)]
        congr 2
        omega
      · rw [if_neg same, induction, List.count_cons_of_ne (Ne.symm same),
          List.filter_cons_of_pos (by simpa using Ne.symm same), List.foldl_cons]

/-- Every key counts its occurrences, and the keys stand in the order of the first of them. -/
theorem ofList_eq (keys : List Key) :
    ofList keys = keys.eraseDups.map fun key => (key, keys.count key) := by
  match keys with
  | [] => rfl
  | key :: rest =>
      have others := ofList_eq (rest.filter fun each => !each == key)
      have first : ofList (key :: rest)
          = (key, 1 + rest.count key) :: ofList (rest.filter fun each => !each == key) := by
        rw [ofList, List.foldl_cons, add, foldl_add_cons]
        rfl
      rw [first, others, List.eraseDups_cons, List.map_cons, List.count_cons_self,
        Nat.add_comm 1]
      congr 1
      apply List.map_congr_left
      intro each member
      have different : each ≠ key := by
        rw [List.mem_eraseDups, List.mem_filter] at member
        simpa using member.2
      rw [List.count_filter (by simpa using different), List.count_cons_of_ne (Ne.symm different)]
termination_by keys.length
decreasing_by exact Nat.lt_succ_of_le (List.length_filter_le _ _)

end Tally

namespace Condition

variable {Key : Type} (counts : List (Key × Int)) (fired : List Key) (exhausted : Bool)

theorem multiple_mem_detect_iff :
    .multiple ∈ detect counts fired exhausted
      ↔ exhausted = true ∨ ∃ entry ∈ counts, 1 < entry.2 := by
  unfold detect
  rw [List.mem_append]
  split
  next present =>
    rw [Bool.or_eq_true, List.any_eq_true] at present
    simpa using present
  next absent =>
    rw [Bool.or_eq_true, List.any_eq_true] at absent
    simpa using absent

theorem mixed_mem_detect_iff : .mixed ∈ detect counts fired exhausted ↔ 1 < fired.length := by
  unfold detect
  rw [List.mem_append]
  split <;> simp

end Condition

variable {schemes : List Scheme} {scheme : Scheme} {text : Text}

namespace Pass

theorem run_cons_of_plain (plain : scheme.codec.Plain text) (rest : List Scheme) :
    run (scheme :: rest) text = run rest text := by
  have same := (Codec.decodePass_eq_self_iff scheme.codec text).mpr plain
  simp only [run, same, if_true]

theorem run_cons_of_not_plain (matching : ¬scheme.codec.Plain text) (rest : List Scheme) :
    run (scheme :: rest) text
      = ⟨(run rest (scheme.codec.decode text)).text,
        scheme :: (run rest (scheme.codec.decode text)).matched⟩ := by
  have counted : (scheme.codec.decodePass text).count ≠ 0 := fun nothing =>
    matching ((Codec.count_decodePass_eq_zero_iff scheme.codec text).mp nothing)
  simp only [run, counted, if_false]
  rfl

theorem run_of_settled (settled : Settled schemes text) : run schemes text = ⟨text, []⟩ := by
  induction schemes with
  | nil => rfl
  | cons scheme rest induction =>
      rw [run_cons_of_plain (settled scheme List.mem_cons_self)]
      exact induction fun each member => settled each (List.mem_cons_of_mem scheme member)

theorem matched_run_eq_nil_iff (schemes : List Scheme) (text : Text) :
    (run schemes text).matched = [] ↔ Settled schemes text := by
  constructor
  · intro nothing
    induction schemes with
    | nil => simp [Settled]
    | cons scheme rest induction =>
        by_cases plain : scheme.codec.Plain text
        · rw [run_cons_of_plain plain] at nothing
          intro each member
          rcases List.mem_cons.mp member with rfl | later
          · exact plain
          · exact induction nothing each later
        · rw [run_cons_of_not_plain plain] at nothing
          cases nothing
  · intro settled
    rw [run_of_settled settled]

theorem length_matched_run_pos (matching : ¬Settled schemes text) :
    0 < (run schemes text).matched.length := by
  rw [List.length_pos_iff]
  exact fun nothing => matching ((matched_run_eq_nil_iff schemes text).mp nothing)

/-- Every match of a pass makes the text shorter by at least one code point. -/
theorem length_run_le (schemes : List Scheme) (text : Text) :
    (run schemes text).text.length + (run schemes text).matched.length ≤ text.length := by
  induction schemes generalizing text with
  | nil => exact Nat.le_refl _
  | cons scheme rest induction =>
      by_cases plain : scheme.codec.Plain text
      · rw [run_cons_of_plain plain]
        exact induction text
      · have shorter := scheme.length_decodePass_le text
        have positive : (scheme.codec.decodePass text).count ≠ 0 := fun nothing =>
          plain ((Codec.count_decodePass_eq_zero_iff scheme.codec text).mp nothing)
        have following := induction (scheme.codec.decode text)
        unfold Codec.decode at following
        rw [run_cons_of_not_plain plain]
        simp only [List.length_cons, Codec.decode]
        omega

/-- The text after each scheme has had its turn, one after the other. -/
def decodeEach (schemes : List Scheme) (text : Text) : Text :=
  schemes.foldl (fun text scheme => scheme.codec.decode text) text

theorem text_run (schemes : List Scheme) (text : Text) :
    (run schemes text).text = decodeEach schemes text := by
  induction schemes generalizing text with
  | nil => rfl
  | cons scheme rest induction =>
      have following := induction (scheme.codec.decode text)
      unfold Codec.decode at following
      simp only [run]
      split
      · exact following
      · exact following

/-- The text after so many passes, without a limit to them. -/
def textAfter (schemes : List Scheme) : Nat → Text → Text
  | 0, text => text
  | count + 1, text => textAfter schemes count (decodeEach schemes text)

theorem textAfter_succ (schemes : List Scheme) (count : Nat) (text : Text) :
    textAfter schemes (count + 1) text = textAfter schemes count (run schemes text).text := by
  rw [text_run, textAfter]

theorem textAfter_of_settled (settled : Settled schemes text) (count : Nat) :
    textAfter schemes count text = text := by
  induction count with
  | zero => rfl
  | succ count induction =>
      rw [textAfter_succ, run_of_settled settled]
      exact induction

theorem textAfter_add (schemes : List Scheme) (first second : Nat) (text : Text) :
    textAfter schemes (first + second) text
      = textAfter schemes second (textAfter schemes first text) := by
  induction first generalizing text with
  | zero => rw [Nat.zero_add, textAfter]
  | succ first induction =>
      rw [Nat.succ_add, textAfter, textAfter]
      exact induction (decodeEach schemes text)

theorem length_textAfter_le (schemes : List Scheme) (count : Nat) (text : Text) :
    (textAfter schemes count text).length ≤ text.length := by
  induction count generalizing text with
  | zero => exact Nat.le_refl _
  | succ count induction =>
      have pass := length_run_le schemes text
      have following := induction (run schemes text).text
      rw [textAfter_succ]
      omega

theorem textAfter_of_le {count later : Nat}
    (settled : Settled schemes (textAfter schemes count text)) (le : count ≤ later) :
    textAfter schemes later text = textAfter schemes count text := by
  rcases Nat.exists_eq_add_of_le le with ⟨more, rfl⟩
  rw [textAfter_add, textAfter_of_settled settled]

end Pass

namespace Decoding

/-- The passes that match something, one after the other, at most as many as the limit allows. -/
def passes (schemes : List Scheme) : Nat → Text → List Pass
  | 0, _ => []
  | limit + 1, text =>
      if (Pass.run schemes text).matched.isEmpty then []
      else Pass.run schemes text :: passes schemes limit (Pass.run schemes text).text

theorem passes_of_settled (settled : Settled schemes text) (limit : Nat) :
    passes schemes limit text = [] := by
  cases limit with
  | zero => rfl
  | succ limit => rw [passes, Pass.run_of_settled settled, List.isEmpty_nil, if_pos rfl]

theorem passes_of_not_settled (matching : ¬Settled schemes text) (limit : Nat) :
    passes schemes (limit + 1) text
      = Pass.run schemes text :: passes schemes limit (Pass.run schemes text).text := by
  rw [passes, if_neg]
  rwa [List.isEmpty_iff, Pass.matched_run_eq_nil_iff]

/-- The schemes that match in one pass after the other. -/
def matched (schemes : List Scheme) (limit : Nat) (text : Text) : List Scheme :=
  (passes schemes limit text).flatMap Pass.matched

theorem matched_of_settled (settled : Settled schemes text) (limit : Nat) :
    matched schemes limit text = [] := by
  rw [matched, passes_of_settled settled, List.flatMap_nil]

theorem matched_succ (schemes : List Scheme) (limit : Nat) (text : Text) :
    matched schemes (limit + 1) text
      = (Pass.run schemes text).matched
        ++ matched schemes limit (Pass.run schemes text).text := by
  by_cases settled : Settled schemes text
  · rw [Pass.run_of_settled settled, matched_of_settled settled, matched_of_settled settled]
    rfl
  · rw [matched, passes_of_not_settled settled, List.flatMap_cons]
    rfl

theorem length_passes_le (schemes : List Scheme) (limit : Nat) (text : Text) :
    (passes schemes limit text).length ≤ limit := by
  induction limit generalizing text with
  | zero => exact Nat.le_refl 0
  | succ limit induction =>
      by_cases settled : Settled schemes text
      · rw [passes_of_settled settled]
        exact Nat.zero_le _
      · rw [passes_of_not_settled settled, List.length_cons]
        exact Nat.succ_le_succ (induction _)

theorem not_settled_of_lt_length_passes {limit earlier : Nat}
    (less : earlier < (passes schemes limit text).length) :
    ¬Settled schemes (Pass.textAfter schemes earlier text) := by
  induction limit generalizing earlier text with
  | zero => cases less
  | succ limit induction =>
      by_cases settled : Settled schemes text
      · rw [passes_of_settled settled] at less
        cases less
      · cases earlier with
        | zero => exact settled
        | succ earlier =>
            rw [passes_of_not_settled settled, List.length_cons] at less
            rw [Pass.textAfter_succ]
            exact induction (Nat.lt_of_succ_lt_succ less)

/-- Passes that end before the limit leave nothing to match. -/
theorem settled_of_length_passes_lt {limit : Nat}
    (less : (passes schemes limit text).length < limit) :
    Settled schemes (Pass.textAfter schemes (passes schemes limit text).length text) := by
  induction limit generalizing text with
  | zero => cases less
  | succ limit induction =>
      by_cases settled : Settled schemes text
      · rwa [passes_of_settled settled]
      · rw [passes_of_not_settled settled, List.length_cons] at less ⊢
        rw [Pass.textAfter_succ]
        exact induction (Nat.lt_of_succ_lt_succ less)

/-- Where passes come to an end after some count, a limit on them only cuts the count off. -/
theorem length_passes_eq_min {count : Nat}
    (matching : ∀ earlier < count, ¬Settled schemes (Pass.textAfter schemes earlier text))
    (settled : Settled schemes (Pass.textAfter schemes count text)) (limit : Nat) :
    (passes schemes limit text).length = min limit count := by
  have allowed := length_passes_le schemes limit text
  have atMost : (passes schemes limit text).length ≤ count := by
    apply Nat.le_of_not_lt
    intro beyond
    exact not_settled_of_lt_length_passes beyond settled
  apply Nat.le_antisymm
  · exact Nat.le_min.mpr ⟨allowed, atMost⟩
  · apply Nat.le_of_not_lt
    intro fewer
    rcases Nat.lt_min.mp fewer with ⟨underLimit, underCount⟩
    exact matching _ underCount (settled_of_length_passes_lt underLimit)

/-- Since every pass that matches makes the text shorter, there are no more than its length. -/
theorem length_passes_le_length (schemes : List Scheme) (limit : Nat) (text : Text) :
    (passes schemes limit text).length ≤ text.length := by
  induction limit generalizing text with
  | zero => exact Nat.zero_le _
  | succ limit induction =>
      by_cases settled : Settled schemes text
      · rw [passes_of_settled settled]
        exact Nat.zero_le _
      · have shorter := Pass.length_run_le schemes text
        have progress := Pass.length_matched_run_pos settled
        have following := induction (Pass.run schemes text).text
        rw [passes_of_not_settled settled, List.length_cons]
        omega

/-- Limited decoding makes the passes that match something and counts what they matched. -/
theorem continueFor_eq (schemes : List Scheme) (limit : Nat) (counts : Tally Scheme) (text : Text) :
    continueFor schemes limit counts text
      = ⟨Pass.textAfter schemes (passes schemes limit text).length text,
        (matched schemes limit text).foldl (fun tally scheme => tally.add scheme) counts,
        decide ((passes schemes limit text).length = limit)⟩ := by
  induction limit generalizing counts text with
  | zero => rfl
  | succ limit induction =>
      by_cases settled : Settled schemes text
      · rw [continueFor, passes_of_settled settled, matched_of_settled settled,
          Pass.run_of_settled settled]
        rfl
      · have progress : (Pass.run schemes text).matched.isEmpty = false := by
          rw [List.isEmpty_eq_false_iff]
          exact fun nothing => settled ((Pass.matched_run_eq_nil_iff schemes text).mp nothing)
        rw [continueFor, progress, passes_of_not_settled settled, matched_succ]
        simp [induction, Pass.textAfter_succ]

theorem text_all (schemes : List Scheme) (text : Text) :
    (all schemes text).text
      = Pass.textAfter schemes (passes schemes maxPasses text).length text := by
  rw [all, continueFor_eq]

/-- Decoding makes a text shorter that is not settled. -/
theorem length_text_all_lt (matching : ¬Settled schemes text) :
    (all schemes text).text.length < text.length := by
  have progress := Pass.length_matched_run_pos matching
  have first := Pass.length_run_le schemes text
  have limit : maxPasses = 4 + 1 := rfl
  rw [text_all, limit, passes_of_not_settled matching, List.length_cons, Pass.textAfter_succ]
  have following := Pass.length_textAfter_le schemes
    (passes schemes 4 (Pass.run schemes text).text).length (Pass.run schemes text).text
  omega

theorem exhausted_all_iff (schemes : List Scheme) (text : Text) :
    (all schemes text).exhausted = true ↔ (passes schemes maxPasses text).length = maxPasses := by
  rw [all, continueFor_eq]
  exact decide_eq_true_iff

theorem counts_all (schemes : List Scheme) (text : Text) :
    (all schemes text).counts
      = (matched schemes maxPasses text).eraseDups.map fun scheme =>
        (scheme, (matched schemes maxPasses text).count scheme) := by
  rw [all, continueFor_eq]
  exact Tally.ofList_eq _

theorem fired_all (schemes : List Scheme) (text : Text) :
    (all schemes text).fired = (matched schemes maxPasses text).eraseDups := by
  rw [fired, counts_all, Tally.keys, List.map_map]
  exact List.map_id _

/-- Decoding that was not cut off leaves no escape of its schemes. -/
theorem settled_all (complete : (all schemes text).exhausted = false) :
    Settled schemes (all schemes text).text := by
  have fewer : (passes schemes maxPasses text).length < maxPasses := by
    apply Nat.lt_of_le_of_ne (length_passes_le schemes maxPasses text)
    intro full
    rw [(exhausted_all_iff schemes text).mpr full] at complete
    cases complete
  rw [text_all]
  exact settled_of_length_passes_lt fewer

/-- Passes without a limit come to an end, and how many of them match something decides what limited
decoding gives: that end, or the text at which it is cut off. -/
theorem all_eq_textAfter (schemes : List Scheme) (text : Text) :
    ∃ count ≤ text.length,
      (∀ earlier < count,
        (Pass.run schemes (Pass.textAfter schemes earlier text)).matched ≠ [])
      ∧ Settled schemes (Pass.textAfter schemes count text)
      ∧ (∀ later ≥ count, Pass.textAfter schemes later text = Pass.textAfter schemes count text)
      ∧ (count ≤ 4 →
        (all schemes text).text = Pass.textAfter schemes count text
        ∧ (all schemes text).exhausted = false)
      ∧ (4 < count →
        (all schemes text).text = Pass.textAfter schemes 5 text
        ∧ (all schemes text).exhausted = true
        ∧ ∀ {Key : Type} (counts : List (Key × Int)) (fired : List Key),
          .multiple ∈ Condition.detect counts fired (all schemes text).exhausted) := by
  have within := length_passes_le_length schemes (text.length + 1) text
  have settled := settled_of_length_passes_lt (Nat.lt_succ_of_le within)
  generalize counted : (passes schemes (text.length + 1) text).length = count at within settled
  have matching : ∀ earlier < count, ¬Settled schemes (Pass.textAfter schemes earlier text) := by
    intro earlier less
    exact not_settled_of_lt_length_passes (counted ▸ less)
  have limited : (passes schemes maxPasses text).length = min 5 count :=
    length_passes_eq_min matching settled maxPasses
  refine ⟨count, within, ?_, settled, fun later le => Pass.textAfter_of_le settled le, ?_, ?_⟩
  · intro earlier less nothing
    exact matching earlier less ((Pass.matched_run_eq_nil_iff schemes _).mp nothing)
  · intro few
    rw [Nat.min_eq_right (Nat.le_succ_of_le few)] at limited
    have complete : (all schemes text).exhausted ≠ true := by
      rw [Ne, exhausted_all_iff, limited]
      exact Nat.ne_of_lt (Nat.lt_succ_of_le few)
    exact ⟨by rw [text_all, limited], Bool.eq_false_iff.mpr complete⟩
  · intro many
    rw [Nat.min_eq_left many] at limited
    have exhausted := (exhausted_all_iff schemes text).mpr limited
    refine ⟨by rw [text_all, limited], exhausted, fun counts fired => ?_⟩
    exact (Condition.multiple_mem_detect_iff counts fired _).mpr (.inl exhausted)

end Decoding

end Escaping
