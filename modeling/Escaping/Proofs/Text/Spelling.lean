import Escaping.Text.Blank
import Escaping.Text.Capitalized
import Mathlib.Data.List.Basic
import Mathlib.Data.List.TakeWhile

/-!
Spellings of a word. Blanks around it are trimmed off. Beyond ASCII no letter has a lower-case form
that starts in ASCII, but for the dotted capital I and the Kelvin sign, so a word without i and k is
spelled in ASCII only.
-/

namespace Escaping

namespace CodePoint

/-- In ASCII, but neither i nor k, which are in lower-case forms of what lies beyond it as well. -/
def isUnshared (point : CodePoint) : Bool :=
  point.val < 0x80 && point.val != 0x69 && point.val != 0x6b

theorem not_isUnshared_ofNat {number : Nat} (outside : 0x80 ≤ number ∨ number = 0x6b) :
    (ofNat number).isUnshared = false := by
  by_cases inside : number < 0x110000
  · rw [isUnshared, val_ofNat inside]
    rcases outside with beyond | rfl
    · have above : ¬number < 0x80 := Nat.not_lt.mpr beyond
      simp [above]
    · rfl
  · have replaced : ofNat number = replacement := by simp [ofNat, inside]
    rw [replaced]
    decide

/-- The only run of capitals beyond ASCII with an image in ASCII is that of the Kelvin sign. -/
theorem image_lower :
    ∀ run ∈ CaseRun.lower, 0x80 ≤ run.image ∨ run.image = 0x6b ∧ run.first = run.last := by
  decide +kernel

/-- A lower-case form of a code point beyond ASCII starts in none of the letters of ASCII but i and
k. -/
theorem exists_lower_of_beyond {point : CodePoint} (beyond : 0x80 ≤ point.val) :
    ∃ first rest, point.lower = first :: rest ∧ first.isUnshared = false := by
  have above : ¬point.val < 0x80 := Nat.not_lt.mpr beyond
  rw [lower, if_neg above]
  split
  next => exact ⟨_, _, rfl, by decide⟩
  next =>
    refine ⟨_, _, rfl, ?_⟩
    cases found : CaseRun.lower.find? fun run => run.contains point.val with
    | none => simp [CaseRun.lookup?, found, isUnshared, above]
    | some run =>
        have within := List.find?_some found
        have image := image_lower run (List.mem_of_find?_eq_some found)
        simp only [CaseRun.contains, Bool.and_eq_true, decide_eq_true_eq] at within
        rw [CaseRun.lookup?, found]
        apply not_isUnshared_ofNat
        show 0x80 ≤ run.image + (point.val - run.first)
          ∨ run.image + (point.val - run.first) = 0x6b
        omega

end CodePoint

namespace Text

variable {drops : CodePoint → Bool} {before after : Text}

/-- The lower case of a text that starts beyond ASCII starts with no unshared letter. -/
theorem exists_lowerAfter_of_beyond {head : CodePoint} (beyond : 0x80 ≤ head.val)
    (before tail : Text) :
    ∃ first rest, lowerAfter before (head :: tail) = first :: rest ∧ first.isUnshared = false := by
  rw [lowerAfter]
  split
  next => exact ⟨_, _, rfl, by split <;> rfl⟩
  next =>
    rcases CodePoint.exists_lower_of_beyond beyond with ⟨first, rest, lowered, shared⟩
    rw [lowered]
    exact ⟨first, rest ++ lowerAfter (head :: before) tail, rfl, shared⟩

/-- A word without i and k is the lower case of a text if it is so letter by letter in ASCII. -/
theorem lowerAfter_eq_iff {word : Text} (unshared : ∀ letter ∈ word, letter.isUnshared = true)
    (before text : Text) : lowerAfter before text = word ↔ lowerAscii text = word := by
  -- In ASCII both sides take the same step; the first letter beyond it fits no word on either side.
  induction text generalizing before word with
  | nil => rfl
  | cons head tail induction =>
      by_cases inside : head.val < 0x80
      · have other : head ≠ capitalSigma := by
          rintro rfl
          exact absurd inside (by decide)
        rw [lowerAfter, if_neg other, CodePoint.lower, if_pos inside]
        cases word with
        | nil => exact iff_of_false (List.cons_ne_nil _ _) (List.cons_ne_nil _ _)
        | cons letter letters =>
            have later := fun each member => unshared each (List.mem_cons_of_mem letter member)
            simp only [lowerAscii, List.map_cons, List.map_nil, List.singleton_append,
              List.cons.injEq]
            exact and_congr_right fun _ => induction later (head :: before)
      · have beyond : 0x80 ≤ head.val := Nat.not_lt.mp inside
        have starts : ∀ {first : CodePoint} {rest : Text}, first.isUnshared = false →
            first :: rest ≠ word := by
          rintro first rest shared rfl
          rw [unshared first List.mem_cons_self] at shared
          cases shared
        rcases exists_lowerAfter_of_beyond beyond before tail with ⟨first, rest, lowered, shared⟩
        rw [lowered]
        apply iff_of_false (starts shared)
        have capital : ¬(0x41 ≤ head.val ∧ head.val ≤ 0x5a) := by omega
        simp only [lowerAscii, List.map_cons, Bool.and_eq_true, decide_eq_true_eq, if_neg capital]
        exact starts (by simp [CodePoint.isUnshared, inside])

theorem lowerAfter_mem_iff {words : List Text}
    (unshared : ∀ word ∈ words, ∀ letter ∈ word, letter.isUnshared = true) (before text : Text) :
    lowerAfter before text ∈ words ↔ lowerAscii text ∈ words := by
  constructor
  · intro member
    rwa [(lowerAfter_eq_iff (unshared _ member) before text).mp rfl]
  · intro member
    rwa [(lowerAfter_eq_iff (unshared _ member) before text).mpr rfl]

theorem dropWhile_append_of_stops (dropped : ∀ point ∈ before, drops point = true)
    (stops : ∀ first ∈ after.head?, drops first = false) :
    (before ++ after).dropWhile drops = after := by
  rw [List.dropWhile_append_of_pos dropped]
  cases after with
  | nil => rfl
  | cons head tail => simp [stops head rfl]

theorem trim_of_dropped {text : Text} (dropped : ∀ point ∈ text, drops point = true) :
    trim drops text = [] := by
  have none : text.dropWhile drops = [] := List.dropWhile_eq_nil_iff.mpr dropped
  rw [trim, none]
  rfl

/-- What is to be dropped around a text is dropped up to its ends, which are not. -/
theorem trim_append {left right text : Text} (opening : ∀ point ∈ left, drops point = true)
    (closing : ∀ point ∈ right, drops point = true) (nonempty : text ≠ [])
    (head : ∀ first ∈ text.head?, drops first = false)
    (last : ∀ last ∈ text.getLast?, drops last = false) :
    trim drops (left ++ (text ++ right)) = text := by
  have front : (left ++ (text ++ right)).dropWhile drops = text ++ right := by
    apply dropWhile_append_of_stops opening
    rwa [List.head?_append_of_ne_nil text nonempty]
  have back : (right.reverse ++ text.reverse).dropWhile drops = text.reverse := by
    apply dropWhile_append_of_stops
    · exact fun point member => closing point (List.mem_reverse.mp member)
    · rwa [List.head?_reverse]
  rw [trim, front, List.reverse_append, back, List.reverse_reverse]

end Text

end Escaping
