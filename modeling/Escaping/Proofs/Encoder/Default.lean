import Escaping.Encoder.Default
import Escaping.Proofs.Encoder.Construction
import Mathlib.Data.List.Forall2

/-!
What asking for the default encoder comes to. As long as no encoder can be made of what is in force,
each request ends in the failure of its own attempt and leaves nothing behind; the first that can be
made is kept, and every later request obtains it, whatever is in force by then.
-/

namespace Escaping

open Failure

namespace DefaultEncoder

variable {surroundings : Surroundings} {failure : Failure} {encoder : Encoder}

/-- Loading the settings in force fails, or making an encoder from them does. -/
def Surroundings.Refuses (surroundings : Surroundings) (failure : Failure) : Prop :=
  Configuration.load surroundings.files none surroundings.environment = .error failure
    ∨ ∃ configuration,
      Configuration.load surroundings.files none surroundings.environment = .ok configuration
        ∧ Encoder.make configuration none Sink.standard = .error failure

/-- The settings in force are those of the encoder, and it can be made from them. -/
def Surroundings.Gives (surroundings : Surroundings) (encoder : Encoder) : Prop :=
  Configuration.load surroundings.files none surroundings.environment
      = .ok encoder.configuration
    ∧ Encoder.make encoder.configuration none Sink.standard = .ok encoder

theorem build_eq_bind (surroundings : Surroundings) :
    build surroundings.files surroundings.environment
      = (Configuration.load surroundings.files none surroundings.environment).bind
        fun configuration => Encoder.make configuration none Sink.standard := rfl

theorem build_of_refuses (refuses : surroundings.Refuses failure) :
    build surroundings.files surroundings.environment = .error failure := by
  rw [build_eq_bind]
  rcases refuses with unloaded | ⟨configuration, loaded, unmade⟩
  · rw [unloaded]
    rfl
  · rw [loaded]
    exact unmade

theorem build_of_gives (gives : surroundings.Gives encoder) :
    build surroundings.files surroundings.environment = .ok encoder := by
  rw [build_eq_bind, gives.1]
  exact gives.2

theorem refuses_or_gives (surroundings : Surroundings) :
    (∃ failure, surroundings.Refuses failure) ∨ ∃ encoder, surroundings.Gives encoder := by
  cases loaded : Configuration.load surroundings.files none surroundings.environment with
  | error failure => exact .inl ⟨failure, .inl loaded⟩
  | ok configuration =>
      cases made : Encoder.make configuration none Sink.standard with
      | error failure => exact .inl ⟨failure, .inr ⟨configuration, loaded, made⟩⟩
      | ok encoder =>
          have same := Encoder.configuration_of_make made
          subst same
          exact .inr ⟨encoder, loaded, made⟩

/-- Requests are refused up to the first that gives an encoder, if there is one. -/
theorem refused_or_first_gives (requests : List Surroundings) :
    (∃ failures, List.Forall₂ Surroundings.Refuses requests failures)
      ∨ ∃ refused first later failures encoder, requests = refused ++ first :: later
        ∧ List.Forall₂ Surroundings.Refuses refused failures ∧ first.Gives encoder := by
  induction requests with
  | nil => exact .inl ⟨[], .nil⟩
  | cons head tail induction =>
      rcases refuses_or_gives head with ⟨failure, refuses⟩ | ⟨encoder, gives⟩
      · rcases induction with
          ⟨failures, all⟩ | ⟨refused, first, later, failures, encoder, split, all, gives⟩
        · exact .inl ⟨failure :: failures, .cons refuses all⟩
        · refine .inr ⟨head :: refused, first, later, failure :: failures, encoder, ?_, ?_, gives⟩
          · rw [split, List.cons_append]
          · exact .cons refuses all
      · exact .inr ⟨[], head, tail, [], encoder, rfl, .nil, gives⟩

theorem obtainAll_append (state : DefaultEncoder) (requests more : List Surroundings) :
    state.obtainAll (requests ++ more)
      = ((state.obtainAll requests).1 ++ ((state.obtainAll requests).2.obtainAll more).1,
        ((state.obtainAll requests).2.obtainAll more).2) := by
  induction requests generalizing state with
  | nil => rfl
  | cons first rest induction =>
      simp only [List.cons_append, obtainAll, induction]

theorem obtainAll_of_refuses {requests : List Surroundings} {failures : List Failure}
    (refused : List.Forall₂ Surroundings.Refuses requests failures) (asked : Nat) :
    (⟨none, asked⟩ : DefaultEncoder).obtainAll requests
      = (failures.map .error, ⟨none, asked + requests.length⟩) := by
  induction refused generalizing asked with
  | nil => rfl
  | @cons first failure rest failures refuses _ induction =>
      have outcome : (⟨none, asked⟩ : DefaultEncoder).obtain first.files first.environment
          = (.error failure, ⟨none, asked + 1⟩) := by
        simp only [obtain, build_of_refuses refuses]
      simp only [obtainAll, outcome, induction, List.map_cons, List.length_cons]
      rw [Nat.add_assoc, Nat.add_comm 1]

theorem obtainAll_initial_of_refuses {requests : List Surroundings} {failures : List Failure}
    (refused : List.Forall₂ Surroundings.Refuses requests failures) :
    initial.obtainAll requests = (failures.map .error, ⟨none, requests.length⟩) := by
  have outcome := obtainAll_of_refuses refused 0
  rwa [Nat.zero_add] at outcome

theorem obtain_of_gives (gives : surroundings.Gives encoder) (asked : Nat) :
    (⟨none, asked⟩ : DefaultEncoder).obtain surroundings.files surroundings.environment
      = (.ok ⟨encoder, asked⟩, ⟨some (encoder, asked), asked + 1⟩) := by
  simp only [obtain, build_of_gives gives]

/-- What is kept is obtained whatever is in force. -/
theorem obtainAll_of_kept (encoder : Encoder) (builtBy asked : Nat) (requests : List Surroundings) :
    (⟨some (encoder, builtBy), asked⟩ : DefaultEncoder).obtainAll requests
      = (List.replicate requests.length (.ok ⟨encoder, builtBy⟩),
        ⟨some (encoder, builtBy), asked + requests.length⟩) := by
  induction requests generalizing asked with
  | nil => rfl
  | cons first rest induction =>
      simp only [obtainAll, obtain, induction, List.length_cons, List.replicate_succ]
      rw [Nat.add_assoc, Nat.add_comm 1]

/-- Failures come one by one until the first encoder is made, and from then on it is obtained. -/
theorem obtainAll_initial (requests : List Surroundings) :
    (∃ failures, List.Forall₂ Surroundings.Refuses requests failures
        ∧ initial.obtainAll requests = (failures.map .error, ⟨none, requests.length⟩))
      ∨ ∃ refused first later failures encoder, requests = refused ++ first :: later
        ∧ List.Forall₂ Surroundings.Refuses refused failures
        ∧ initial.obtainAll refused = (failures.map .error, ⟨none, refused.length⟩)
        ∧ first.Gives encoder
        ∧ initial.obtainAll requests
          = (failures.map .error
              ++ List.replicate (later.length + 1) (.ok ⟨encoder, refused.length⟩),
            ⟨some (encoder, refused.length), requests.length⟩) := by
  rcases refused_or_first_gives requests with
    ⟨failures, all⟩ | ⟨refused, first, later, failures, encoder, split, all, gives⟩
  · exact .inl ⟨failures, all, obtainAll_initial_of_refuses all⟩
  · have before := obtainAll_initial_of_refuses all
    refine .inr ⟨refused, first, later, failures, encoder, split, all, before, gives, ?_⟩
    have after : (⟨none, refused.length⟩ : DefaultEncoder).obtainAll (first :: later)
        = (List.replicate (later.length + 1) (.ok ⟨encoder, refused.length⟩),
          ⟨some (encoder, refused.length), refused.length + 1 + later.length⟩) := by
      simp only [obtainAll, obtain_of_gives gives, obtainAll_of_kept, List.replicate_succ]
    have asked : refused.length + 1 + later.length = requests.length := by
      rw [split, List.length_append, List.length_cons]
      omega
    rw [← asked, split, obtainAll_append, before, after]

end DefaultEncoder

end Escaping
