import Escaping.Canonical.Decoding
import Escaping.Text.Capitalized

/-!
Intrusion signals: what is told about an input that was encoded repeatedly or in several ways.
-/

namespace Escaping

structure IntrusionSignal where
  conditions : List Text
  codecs : List Text
  counts : List (Text × Int)
deriving DecidableEq

namespace IntrusionSignal

def ofDecoding (decoding : Decoding) : IntrusionSignal :=
  ⟨decoding.conditions.map Condition.name, decoding.firedNames, decoding.namedCounts⟩

/-- Sets the count of a name; a later count of the same name replaces an earlier one. -/
def setCount {Count : Type} (counts : List (Text × Count)) (name : Text) (count : Count) :
    List (Text × Count) :=
  if counts.any fun (each, _) => each = name then
    counts.map fun (each, before) => if each = name then (each, count) else (each, before)
  else counts ++ [(name, count)]

/-- Counts in which each name stands once. -/
def countsOf {Count : Type} (pairs : List (Text × Count)) : List (Text × Count) :=
  pairs.foldl (fun counts (name, count) => setCount counts name count) []

def multiple (signal : IntrusionSignal) : Bool :=
  decide (Condition.multiple.name ∈ signal.conditions)

def mixed (signal : IntrusionSignal) : Bool :=
  decide (Condition.mixed.name ∈ signal.conditions)

/-- A codec that has no count is taken to have matched once. -/
def countOf (signal : IntrusionSignal) (name : Text) : Int := (signal.counts.lookup name).getD 1

def userMessage : Text := Text.ofString "Input validation failure"

def logMessage (signal : IntrusionSignal) : Text :=
  Text.capitalized (Text.join (Text.ofString " and ") signal.conditions)
    ++ Text.ofString " encoding detected (codecs: "
    ++ Text.join (Text.ofString ", ") (signal.codecs.map fun name =>
      name ++ Text.ofString " x" ++ Text.integer (signal.countOf name))
    ++ Text.ofString ")"

end IntrusionSignal

end Escaping
