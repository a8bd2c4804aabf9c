import Escaping.Encoder.Operation
import Escaping.Settings.Source

/-!
The default encoder. It is built from the settings in force when it is first asked for, and kept
from then on; a failure to build it is not kept.
-/

namespace Escaping

/-- The default encoder of a process, if it has been built, and how often it has been asked for. -/
structure DefaultEncoder where
  kept : Option (Encoder × Nat)
  requests : Nat

namespace DefaultEncoder

def initial : DefaultEncoder := ⟨none, 0⟩

def build (files : FileSystem) (environment : Environment) : Except Failure Encoder := do
  let configuration ← Configuration.load files none environment
  Encoder.make configuration none Sink.standard

structure Obtained where
  encoder : Encoder
  builtBy : Nat

def obtain (state : DefaultEncoder) (files : FileSystem) (environment : Environment) :
    Except Failure Obtained × DefaultEncoder :=
  match state.kept with
  | some (encoder, builtBy) => (.ok ⟨encoder, builtBy⟩, ⟨state.kept, state.requests + 1⟩)
  | none =>
      match build files environment with
      | .ok encoder =>
          (.ok ⟨encoder, state.requests⟩, ⟨some (encoder, state.requests), state.requests + 1⟩)
      | .error failure => (.error failure, ⟨none, state.requests + 1⟩)

/-- The files and variables in force when the default encoder is asked for. -/
structure Surroundings where
  files : FileSystem
  environment : Environment

/-- What is obtained when the default encoder is asked for again and again. -/
def obtainAll (state : DefaultEncoder) :
    List Surroundings → List (Except Failure Obtained) × DefaultEncoder
  | [] => ([], state)
  | first :: rest =>
      let (outcome, next) := state.obtain first.files first.environment
      let (outcomes, last) := next.obtainAll rest
      (outcome :: outcomes, last)

end DefaultEncoder

end Escaping
