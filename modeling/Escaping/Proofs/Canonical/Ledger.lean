import Escaping.Proofs.Canonical.Outcome
import Escaping.Proofs.Canonical.Turns

/-!
The account of a decoding, kept in two collections: a count for each scheme that has matched, and a
list of these schemes. A match is entered in both of them or only in the counts, turn by turn and
pass by pass. The two stay in step, and together they say what the tally of a decoding says.
-/

namespace Escaping

namespace Tally

theorem keys_cons {Key : Type} (key : Key) (count : Nat) (tally : Tally Key) :
    keys ((key, count) :: tally) = key :: keys tally := rfl

variable {Key : Type} [DecidableEq Key] {key each : Key} {tally : Tally Key}

theorem lookup_cons (key each : Key) (count : Nat) (tally : Tally Key) :
    List.lookup each ((key, count) :: tally)
      = if each = key then some count else List.lookup each tally := by
  rw [List.lookup_cons]
  by_cases same : each = key
  · rw [if_pos same, beq_iff_eq.mpr same]
  · rw [if_neg same, beq_false_of_ne same]

theorem lookup_eq_none_iff : tally.lookup key = none ↔ key ∉ tally.keys := by
  induction tally with
  | nil => simp [keys]
  | cons head rest induction =>
      rcases head with ⟨first, count⟩
      rw [lookup_cons, keys_cons, List.mem_cons]
      by_cases same : key = first
      · simp [same]
      · rw [if_neg same, induction]
        simp [same]

theorem keys_add (key : Key) (tally : Tally Key) :
    (tally.add key).keys = if key ∈ tally.keys then tally.keys else tally.keys ++ [key] := by
  induction tally with
  | nil => rfl
  | cons head rest induction =>
      rcases head with ⟨first, count⟩
      by_cases same : first = key
      · simp [add, keys_cons, same]
      · rw [add, if_neg same, keys_cons, keys_cons, induction]
        by_cases known : key ∈ keys rest
        · rw [if_pos known, if_pos (List.mem_cons_of_mem first known)]
        · have absent : key ∉ first :: keys rest := by
            simp [Ne.symm same, known]
          rw [if_neg known, if_neg absent, List.cons_append]

theorem lookup_add (key each : Key) (tally : Tally Key) :
    (tally.add key).lookup each
      = if each = key then some ((tally.lookup key).getD 0 + 1) else tally.lookup each := by
  induction tally with
  | nil => rw [add, lookup_cons]; rfl
  | cons head rest induction =>
      rcases head with ⟨first, count⟩
      by_cases same : first = key
      · subst same
        rw [add, if_pos rfl, lookup_cons, lookup_cons, lookup_cons, if_pos rfl, Option.getD_some]
        split
        · rfl
        · rfl
      · rw [add, if_neg same, lookup_cons, lookup_cons, lookup_cons, induction,
          if_neg (Ne.symm same)]
        by_cases one : each = first
        · rw [if_pos one, if_pos one, one, if_neg same]
        · rw [if_neg one, if_neg one]

theorem lookup_map (value : Key → Nat) (key : Key) (keys : List Key) :
    List.lookup key (keys.map fun each => (each, value each))
      = if key ∈ keys then some (value key) else none := by
  induction keys with
  | nil => rfl
  | cons first rest induction =>
      rw [List.map_cons, lookup_cons, induction]
      by_cases same : key = first
      · simp [same]
      · simp [same]

end Tally

/-- The account of a decoding in two collections: how often each scheme has matched that has matched
at all, and these schemes in the order in which they first did. -/
structure Ledger where
  counts : Scheme → Option Nat
  fired : List Scheme

namespace Ledger

def empty : Ledger := ⟨fun _ => none, []⟩

def setCount (ledger : Ledger) (scheme : Scheme) (count : Nat) : Ledger :=
  { ledger with counts := fun each => if each = scheme then some count else ledger.counts each }

/-- Enters a match. A scheme without a count joins the list and counts from zero. -/
def enter (ledger : Ledger) (scheme : Scheme) : Ledger :=
  match ledger.counts scheme with
  | none => { ledger.setCount scheme 1 with fired := ledger.fired ++ [scheme] }
  | some count => ledger.setCount scheme (count + 1)

/-- The two collections say together what a tally says. -/
structure Shows (ledger : Ledger) (tally : Tally Scheme) : Prop where
  fired : ledger.fired = tally.keys
  counts : ∀ scheme, ledger.counts scheme = tally.lookup scheme

variable {ledger : Ledger} {tally : Tally Scheme}

theorem shows_empty : empty.Shows [] := ⟨rfl, fun _ => rfl⟩

/-- A match is entered in both collections or, where it is not the first, in one of them. -/
theorem Shows.enter (shown : ledger.Shows tally) (scheme : Scheme) :
    (ledger.enter scheme).Shows (tally.add scheme) := by
  have counted := shown.counts scheme
  unfold Ledger.enter
  split
  next absent =>
    rw [counted] at absent
    have fresh := Tally.lookup_eq_none_iff.mp absent
    constructor
    · rw [Tally.keys_add, if_neg fresh, ← shown.fired]
    · intro each
      rw [Tally.lookup_add, absent, ← shown.counts each]
      rfl
  next count present =>
    rw [counted] at present
    have known : scheme ∈ tally.keys := by
      apply Decidable.not_not.mp
      intro fresh
      rw [Tally.lookup_eq_none_iff.mpr fresh] at present
      cases present
    constructor
    · rw [Tally.keys_add, if_pos known, ← shown.fired]
      rfl
    · intro each
      rw [Tally.lookup_add, present, ← shown.counts each]
      rfl

theorem Shows.eq (shown : ledger.Shows tally) :
    ledger = ⟨fun scheme => tally.lookup scheme, tally.keys⟩ := by
  rcases ledger with ⟨counts, fired⟩
  rw [Ledger.mk.injEq]
  exact ⟨funext shown.counts, shown.fired⟩

end Ledger

/-- Where decoding stands: the text and the account so far, and whether something has matched in the
pass, or in every pass that was allowed. -/
structure Progress where
  text : Text
  ledger : Ledger
  progressed : Bool

namespace Progress

/-- The turn of a scheme. -/
def turn (progress : Progress) (scheme : Scheme) : Progress :=
  let replaced := scheme.codec.decodePass progress.text
  if replaced.count = 0 then { progress with text := replaced.text }
  else ⟨replaced.text, progress.ledger.enter scheme, true⟩

def pass (schemes : List Scheme) (text : Text) (ledger : Ledger) : Progress :=
  schemes.foldl turn ⟨text, ledger, false⟩

def passes (schemes : List Scheme) : Nat → Text → Ledger → Progress
  | 0, text, ledger => ⟨text, ledger, true⟩
  | remaining + 1, text, ledger =>
      let after := pass schemes text ledger
      if after.progressed then passes schemes remaining after.text after.ledger else after

/-- In a pass the matches are entered one by one. -/
theorem foldl_turn (schemes : List Scheme) (progress : Progress) :
    schemes.foldl turn progress
      = ⟨(Pass.run schemes progress.text).text,
        (Pass.run schemes progress.text).matched.foldl Ledger.enter progress.ledger,
        progress.progressed || !(Pass.run schemes progress.text).matched.isEmpty⟩ := by
  induction schemes generalizing progress with
  | nil => simp [Pass.run]
  | cons scheme rest induction =>
      rw [List.foldl_cons, induction]
      by_cases nothing : (scheme.codec.decodePass progress.text).count = 0
      · simp only [turn, Pass.run, if_pos nothing]
      · simp only [turn, Pass.run, if_neg nothing, List.foldl_cons, List.isEmpty_cons,
          Bool.not_false, Bool.true_or, Bool.or_true]

theorem shows_foldl {ledger : Ledger} {tally : Tally Scheme} (matched : List Scheme)
    (shown : ledger.Shows tally) :
    (matched.foldl Ledger.enter ledger).Shows
      (matched.foldl (fun tally scheme => tally.add scheme) tally) := by
  induction matched generalizing ledger tally with
  | nil => exact shown
  | cons scheme rest induction => exact induction (shown.enter scheme)

/-- Passes that keep the account in two collections do the same as decoding with a tally. -/
theorem passes_eq (schemes : List Scheme) (limit : Nat) (text : Text) {ledger : Ledger}
    {tally : Tally Scheme} (shown : ledger.Shows tally) :
    (passes schemes limit text ledger).text = (Decoding.continueFor schemes limit tally text).text
      ∧ (passes schemes limit text ledger).ledger.Shows
        (Decoding.continueFor schemes limit tally text).counts
      ∧ (passes schemes limit text ledger).progressed
        = (Decoding.continueFor schemes limit tally text).exhausted := by
  induction limit generalizing text ledger tally with
  | zero => exact ⟨rfl, shown, rfl⟩
  | succ limit induction =>
      rw [passes, pass, foldl_turn, Decoding.continueFor]
      cases matched : (Pass.run schemes text).matched with
      | nil => exact ⟨rfl, shown, rfl⟩
      | cons first rest => exact induction _ (matched ▸ shows_foldl _ shown)

theorem passes_empty (schemes : List Scheme) (text : Text) :
    passes schemes Decoding.maxPasses text .empty
      = ⟨(Decoding.all schemes text).text,
        ⟨fun scheme => (Decoding.all schemes text).counts.lookup scheme,
          (Decoding.all schemes text).fired⟩,
        (Decoding.all schemes text).exhausted⟩ := by
  rcases passes_eq schemes Decoding.maxPasses text Ledger.shows_empty with ⟨same, shown, also⟩
  calc passes schemes Decoding.maxPasses text .empty
      = ⟨(passes schemes Decoding.maxPasses text .empty).text,
          (passes schemes Decoding.maxPasses text .empty).ledger,
          (passes schemes Decoding.maxPasses text .empty).progressed⟩ := rfl
    _ = _ := by
      rw [same, shown.eq, also]
      rfl

end Progress

end Escaping
