import Escaping.Proofs.Canonical.Passes
import Escaping.Proofs.Codec.Walking

/-!
Turns. In every pass each scheme of a list has its turn, at the text that the passes before it and
the schemes before it in the list have left. The turn matches where the scheme changes this text,
and then it makes it shorter. What decoding takes down of its passes are the schemes of the turns
that match, from the first of them to the last.
-/

namespace Escaping

namespace Scheme

variable (scheme : Scheme) (text : Text)

/-- A pass leaves a text as it is exactly where it counts nothing. -/
theorem text_decodePass_eq_self_iff :
    (scheme.codec.decodePass text).text = text ↔ (scheme.codec.decodePass text).count = 0 := by
  constructor
  · intro same
    have shorter := scheme.length_decodePass_le text
    rw [same] at shorter
    omega
  · intro nothing
    have plain := (Codec.count_decodePass_eq_zero_iff scheme.codec text).mp nothing
    rw [(Codec.decodePass_eq_self_iff scheme.codec text).mpr plain]

/-- What a pass takes down first is whether its first scheme has changed the text. -/
theorem matched_run_cons (rest : List Scheme) :
    (Pass.run (scheme :: rest) text).matched
      = (if (scheme.codec.decodePass text).text = text then [] else [scheme])
        ++ (Pass.run rest (scheme.codec.decodePass text).text).matched := by
  by_cases nothing : (scheme.codec.decodePass text).count = 0
  · have same := (scheme.text_decodePass_eq_self_iff text).mpr nothing
    simp only [Pass.run, if_pos nothing, if_pos same, List.nil_append]
  · have changed := fun same => nothing ((scheme.text_decodePass_eq_self_iff text).mp same)
    simp only [Pass.run, if_neg nothing, if_neg changed, List.singleton_append]

/-- Every escape that a pass replaces makes the text shorter. So a pass counts nothing exactly where
it changes nothing, and a scheme is taken down in a pass exactly where it changes the text. -/
theorem decodePass_shortens :
    (scheme.codec.decodePass text).text.length + (scheme.codec.decodePass text).count
        ≤ text.length
      ∧ ((scheme.codec.decodePass text).count = 0
        ↔ (scheme.codec.decodePass text).text = text)
      ∧ (∀ position found, scheme.codec.decodeAt text position = some found →
        found.stop ≤ text.length ∧ found.text.length < found.stop - position)
      ∧ ∀ rest, (Pass.run (scheme :: rest) text).matched
        = (if (scheme.codec.decodePass text).text = text then [] else [scheme])
          ++ (Pass.run rest (scheme.codec.decodePass text).text).matched := by
  refine ⟨scheme.length_decodePass_le text, (scheme.text_decodePass_eq_self_iff text).symm, ?_,
    scheme.matched_run_cons text⟩
  intro position found matched
  have bounds := bounds_of_decodeAt matched
  omega

end Scheme

/-- The turn of a scheme in a pass; passes are numbered from zero. -/
structure Turn where
  pass : Nat
  scheme : Scheme
deriving DecidableEq

namespace Turn

/-- The text at which a scheme has its turn. -/
def input (schemes : List Scheme) (text : Text) (turn : Turn) : Text :=
  Pass.decodeEach (schemes.takeWhile (· ≠ turn.scheme)) (Pass.textAfter schemes turn.pass text)

/-- The scheme is one of the list and finds something to replace at its turn. -/
def Matches (schemes : List Scheme) (text : Text) (turn : Turn) : Prop :=
  turn.scheme ∈ schemes
    ∧ (turn.scheme.codec.decodePass (turn.input schemes text)).count ≠ 0

instance (schemes : List Scheme) (text : Text) (turn : Turn) :
    Decidable (turn.Matches schemes text) :=
  inferInstanceAs (Decidable (_ ∧ _))

/-- Turns follow one another pass by pass, and within a pass in the order of the list. -/
def Before (schemes : List Scheme) (earlier later : Turn) : Prop :=
  earlier.pass < later.pass
    ∨ (earlier.pass = later.pass
      ∧ schemes.idxOf earlier.scheme < schemes.idxOf later.scheme)

theorem Before.irrefl {schemes : List Scheme} {turn : Turn} : ¬turn.Before schemes turn := by
  unfold Before
  omega

variable {schemes : List Scheme} {scheme : Scheme} {text : Text}

theorem matches_cons_self_iff {rest : List Scheme} :
    Matches (scheme :: rest) text ⟨0, scheme⟩ ↔ (scheme.codec.decodePass text).count ≠ 0 := by
  simp [Matches, input, Pass.textAfter, Pass.decodeEach]

/-- The first scheme of a list has its turn before the others have theirs. -/
theorem matches_cons_iff {first : Scheme} {rest : List Scheme} (different : first ≠ scheme) :
    Matches (first :: rest) text ⟨0, scheme⟩
      ↔ Matches rest (first.codec.decodePass text).text ⟨0, scheme⟩ := by
  simp [Matches, input, Pass.textAfter, Pass.decodeEach, different, different.symm, Codec.decode]

/-- The schemes whose turns in a pass match, in the order of the list. -/
def matching (schemes : List Scheme) (text : Text) (pass : Nat) : List Scheme :=
  schemes.filter fun scheme => decide (Matches schemes text ⟨pass, scheme⟩)

theorem mem_matching_iff {pass : Nat} :
    scheme ∈ matching schemes text pass ↔ Matches schemes text ⟨pass, scheme⟩ := by
  rw [matching, List.mem_filter, decide_eq_true_eq]
  exact and_iff_right_of_imp fun matched => matched.1

/-- A pass does what a first pass does over the text before it. -/
theorem matching_eq_matching_zero (schemes : List Scheme) (text : Text) (pass : Nat) :
    matching schemes text pass = matching schemes (Pass.textAfter schemes pass text) 0 := rfl

theorem matching_succ (schemes : List Scheme) (text : Text) (pass : Nat) :
    matching schemes text (pass + 1) = matching schemes (Pass.run schemes text).text pass := by
  rw [matching_eq_matching_zero, Pass.textAfter_succ]
  rfl

theorem count_matching (distinct : schemes.Nodup) (scheme : Scheme) (text : Text) (pass : Nat) :
    (matching schemes text pass).count scheme
      = if Matches schemes text ⟨pass, scheme⟩ then 1 else 0 := by
  rw [(distinct.sublist List.filter_sublist : (matching schemes text pass).Nodup).count]
  simp only [mem_matching_iff]

end Turn

variable {schemes : List Scheme} {scheme : Scheme} {text : Text}

/-- A pass takes down the schemes whose turns match, in the order of the list. -/
theorem Pass.matched_run_eq_matching (distinct : schemes.Nodup) (text : Text) :
    (run schemes text).matched = Turn.matching schemes text 0 := by
  induction schemes generalizing text with
  | nil => rfl
  | cons first rest induction =>
      rcases List.nodup_cons.mp distinct with ⟨absent, others⟩
      have later : rest.filter
            (fun scheme => decide (Turn.Matches (first :: rest) text ⟨0, scheme⟩))
          = (run rest (first.codec.decodePass text).text).matched := by
        rw [induction others]
        apply List.filter_congr
        intro scheme member
        have different : first ≠ scheme := fun equal => absent (equal ▸ member)
        exact decide_eq_decide.mpr (Turn.matches_cons_iff different)
      by_cases nothing : (first.codec.decodePass text).count = 0
      · have missed : ¬Turn.Matches (first :: rest) text ⟨0, first⟩ := fun matched =>
          Turn.matches_cons_self_iff.mp matched nothing
        rw [Turn.matching, List.filter_cons_of_neg (by simpa using missed), later]
        simp only [run, if_pos nothing]
      · have matched : Turn.Matches (first :: rest) text ⟨0, first⟩ :=
          Turn.matches_cons_self_iff.mpr nothing
        rw [Turn.matching, List.filter_cons_of_pos (by simpa using matched), later]
        simp only [run, if_neg nothing]

/-- A turn of a pass matches exactly where the text before the pass is not settled. -/
theorem Turn.exists_matches_iff (distinct : schemes.Nodup) {pass : Nat} :
    (∃ scheme, Matches schemes text ⟨pass, scheme⟩)
      ↔ ¬Settled schemes (Pass.textAfter schemes pass text) := by
  rw [← Pass.matched_run_eq_nil_iff, Pass.matched_run_eq_matching distinct,
    ← matching_eq_matching_zero]
  simp only [← mem_matching_iff]
  constructor
  · intro existing nothing
    rcases existing with ⟨scheme, member⟩
    rw [nothing] at member
    cases member
  · exact List.exists_mem_of_ne_nil _

namespace Decoding

/-- The turns that match in so many passes, one after the other. -/
def turns (schemes : List Scheme) (limit : Nat) (text : Text) : List Turn :=
  (List.range limit).flatMap fun pass => (Turn.matching schemes text pass).map (.mk pass)

theorem mem_turns_iff {limit : Nat} {turn : Turn} :
    turn ∈ turns schemes limit text ↔ turn.pass < limit ∧ turn.Matches schemes text := by
  simp only [turns, List.mem_flatMap, List.mem_range, List.mem_map, Turn.mem_matching_iff]
  constructor
  · intro member
    rcases member with ⟨pass, within, scheme, matched, same⟩
    subst same
    exact ⟨within, matched⟩
  · intro both
    exact ⟨turn.pass, both.1, turn.scheme, both.2, rfl⟩

theorem map_scheme_turns (schemes : List Scheme) (limit : Nat) (text : Text) :
    (turns schemes limit text).map Turn.scheme
      = (List.range limit).flatMap (Turn.matching schemes text) := by
  simp only [turns, List.map_flatMap, List.map_map, Function.comp_def, List.map_id']

/-- What decoding takes down are the schemes of the turns that match. -/
theorem matched_eq_map_turns (distinct : schemes.Nodup) (limit : Nat) (text : Text) :
    matched schemes limit text = (turns schemes limit text).map Turn.scheme := by
  induction limit generalizing text with
  | zero => rfl
  | succ limit induction =>
      rw [matched_succ, induction, Pass.matched_run_eq_matching distinct, map_scheme_turns,
        map_scheme_turns, List.range_succ_eq_map, List.flatMap_cons, List.flatMap_map]
      simp only [Turn.matching_succ, Nat.succ_eq_add_one]

theorem mem_matched_iff (distinct : schemes.Nodup) {limit : Nat} :
    scheme ∈ matched schemes limit text
      ↔ ∃ pass < limit, Turn.Matches schemes text ⟨pass, scheme⟩ := by
  rw [matched_eq_map_turns distinct, List.mem_map]
  constructor
  · intro member
    rcases member with ⟨turn, listed, same⟩
    subst same
    exact ⟨turn.pass, mem_turns_iff.mp listed⟩
  · intro matching
    rcases matching with ⟨pass, both⟩
    exact ⟨⟨pass, scheme⟩, mem_turns_iff.mpr both, rfl⟩

/-- The turns are listed in the order in which they come. -/
theorem pairwise_turns (distinct : schemes.Nodup) (limit : Nat) (text : Text) :
    (turns schemes limit text).Pairwise (Turn.Before schemes) := by
  have inOrder : schemes.Pairwise fun earlier later =>
      schemes.idxOf earlier < schemes.idxOf later := by
    rw [List.pairwise_iff_getElem]
    intro first second _ _ less
    rwa [distinct.idxOf_getElem, distinct.idxOf_getElem]
  rw [turns, List.pairwise_flatMap]
  constructor
  · intro pass _
    rw [List.pairwise_map]
    apply (inOrder.sublist List.filter_sublist).imp
    exact fun less => .inr ⟨rfl, less⟩
  · apply List.pairwise_lt_range.imp
    intro earlier later less first inFirst second inSecond
    rcases List.mem_map.mp inFirst with ⟨_, _, same⟩
    rcases List.mem_map.mp inSecond with ⟨_, _, also⟩
    subst same also
    exact .inl less

/-- A scheme is taken down as often as there are passes in which its turn matches. -/
theorem count_matched (distinct : schemes.Nodup) (scheme : Scheme) (limit : Nat) (text : Text) :
    (matched schemes limit text).count scheme
      = (List.range limit).countP fun pass =>
        decide (Turn.Matches schemes text ⟨pass, scheme⟩) := by
  rw [matched_eq_map_turns distinct, map_scheme_turns]
  generalize List.range limit = passes
  induction passes with
  | nil => rfl
  | cons pass rest induction =>
      rw [List.flatMap_cons, List.count_append, induction, Turn.count_matching distinct,
        List.countP_cons, Nat.add_comm]
      simp only [decide_eq_true_eq]

end Decoding

end Escaping
