import Escaping.Failure

/-!
Outcomes that are explained. Work on settings should end in a result or in an error that tells of a
faulty configuration. A fault is told of unless its message would quote a value that cannot be
shown; work in several steps is explained where the first step that fails is.
-/

namespace Escaping

/-- A message can quote the value. -/
def Value.Showable (value : Value) : Prop :=
  value.levels ≤ maxLevels ∧ value.hasShortIntegers = true

/-- One level can always be shown, so that only long integers are left. -/
theorem Value.showable_iff_of_isAtomic {value : Value} (atomic : value.isAtomic = true) :
    value.Showable ↔ value.hasShortIntegers = true := by
  have single : value.levels = 1 := by
    cases value with
    | list items => cases atomic
    | table entries => cases atomic
    | _ => rfl
  rw [Showable, single]
  exact and_iff_right (by decide)

namespace Failure

variable {Item First Result : Type}

/-- Work ends in a result, or in an error that tells of a faulty configuration. -/
def Explained (outcome : Except Failure Result) : Prop :=
  (∃ result, outcome = .ok result)
    ∨ ∃ notice, outcome = .error (.error (.configuration notice))

theorem explained_ok (result : Result) : Explained (.ok result) := .inl ⟨result, rfl⟩

theorem not_explained_misuse (misuse : Misuse) :
    ¬Explained (.error (.misuse misuse) : Except Failure Result) := by
  intro explained
  rcases explained with ⟨_, ok⟩ | ⟨_, error⟩
  · cases ok
  · cases error

/-- The misuse that work ends in, if it ends in one. -/
def misuse? : Except Failure Result → Option Misuse
  | .error (.misuse found) => some found
  | _ => none

theorem not_explained_of_misuse? {outcome : Except Failure Result} {found : Misuse}
    (ended : misuse? outcome = some found) : ¬Explained outcome := by
  unfold misuse? at ended
  split at ended
  next other => exact not_explained_misuse other
  next => cases ended

theorem explained_bind_iff {first : Except Failure First} {next : First → Except Failure Result} :
    Explained (first.bind next)
      ↔ Explained first ∧ ∀ value, first = .ok value → Explained (next value) := by
  cases first with
  | ok value =>
      constructor
      · intro explained
        refine ⟨explained_ok value, ?_⟩
        intro _ same
        cases same
        exact explained
      · intro both
        exact both.2 value rfl
  | error failure =>
      constructor
      · intro explained
        rcases explained with ⟨_, ok⟩ | ⟨notice, error⟩
        · cases ok
        · cases error
          exact ⟨.inr ⟨notice, rfl⟩, fun _ same => nomatch same⟩
      · intro both
        rcases both.1 with ⟨_, ok⟩ | ⟨notice, error⟩
        · cases ok
        · cases error
          exact .inr ⟨notice, rfl⟩

/-- A fault is explained unless its message would quote a value that cannot be shown. -/
theorem explained_ofConfigurationFault_iff (fault : ConfigurationFault) :
    Explained (.error (.ofConfigurationFault fault) : Except Failure Result)
      ↔ ∀ given ∈ fault.given?, given.Showable := by
  unfold ofConfigurationFault
  cases quoted : fault.given? with
  | none => exact iff_of_true (.inr ⟨fault.notice, rfl⟩) fun _ member => nomatch member
  | some given =>
      dsimp only
      split
      next deep =>
        apply iff_of_false (not_explained_misuse _)
        intro showable
        exact Nat.not_lt_of_le (showable given rfl).1 deep
      next shallow =>
        split
        next long =>
          apply iff_of_false (not_explained_misuse _)
          intro showable
          rw [(showable given rfl).2] at long
          cases long
        next short =>
          apply iff_of_true (.inr ⟨fault.notice, rfl⟩)
          intro other same
          cases same
          exact ⟨Nat.le_of_not_lt shallow, by simpa using short⟩

/-- Faults that quote nothing are explained. -/
theorem explained_of_unquoted {fault : ConfigurationFault} (unquoted : fault.given? = none) :
    Explained (.error (.ofConfigurationFault fault) : Except Failure Result) := by
  rw [explained_ofConfigurationFault_iff, unquoted]
  exact fun _ member => nomatch member

/-- A fault that quotes a value is explained where the value can be shown. -/
theorem explained_quoting_iff {fault : ConfigurationFault} {given : Value}
    (quoted : fault.given? = some given) :
    Explained (.error (.ofConfigurationFault fault) : Except Failure Result) ↔ given.Showable := by
  rw [explained_ofConfigurationFault_iff, quoted]
  simp

theorem explained_mapError {outcome : Except ConfigurationFault Result}
    (unquoted : ∀ fault, outcome = .error fault → fault.given? = none) :
    Explained (outcome.mapError ofConfigurationFault) := by
  cases outcome with
  | ok result => exact explained_ok result
  | error fault => exact explained_of_unquoted (unquoted fault rfl)

theorem isOk_iff {outcome : Except Failure Result} :
    outcome.isOk = true ↔ ∃ result, outcome = .ok result := by
  cases outcome with
  | error fault => simp [Except.isOk, Except.toBool]
  | ok result => simp [Except.isOk, Except.toBool]

/-- Going through a list, only the first item that is refused counts. -/
theorem explained_mapM_iff {work : Item → Except Failure Result} {items : List Item} :
    Explained (items.mapM work)
      ↔ ∀ item ∈ items.find? fun item => !(work item).isOk, Explained (work item) := by
  induction items with
  | nil => exact iff_of_true (explained_ok []) fun _ member => nomatch member
  | cons head tail induction =>
      have opened : (head :: tail).mapM work
          = (work head).bind fun first => (tail.mapM work).bind fun others =>
            .ok (first :: others) := by
        rw [List.mapM_cons]
        rfl
      rw [opened, explained_bind_iff]
      cases done : work head with
      | ok first =>
          have passed : (head :: tail).find? (fun item => !(work item).isOk)
              = tail.find? fun item => !(work item).isOk := by
            rw [List.find?_cons_of_neg]
            simp [done, Except.isOk, Except.toBool]
          rw [passed, ← induction]
          constructor
          · intro both
            exact (explained_bind_iff.mp (both.2 first rfl)).1
          · intro explained
            refine ⟨explained_ok first, ?_⟩
            intro value _
            exact explained_bind_iff.mpr ⟨explained, fun others _ => explained_ok _⟩
      | error failure =>
          have stopped : (head :: tail).find? (fun item => !(work item).isOk) = some head := by
            rw [List.find?_cons_of_pos]
            simp [done, Except.isOk, Except.toBool]
          rw [stopped]
          constructor
          · intro both item same
            cases same
            rw [done]
            exact both.1
          · intro refused
            have explained := refused head rfl
            rw [done] at explained
            exact ⟨explained, fun _ same => nomatch same⟩

end Failure

end Escaping
