import Escaping.Scheme

/-!
Decoding a text layer by layer. A pass lets each scheme of a list replace its escapes in turn;
passes repeat until one of them matches nothing, or until the limit is reached. What counts as
suspicious is an encoding applied more than once, and more than one encoding.
-/

namespace Escaping

/-- How often each key was seen, in the order in which the keys were first seen. -/
abbrev Tally (Key : Type) := List (Key × Nat)

namespace Tally

def add {Key : Type} [DecidableEq Key] (key : Key) : Tally Key → Tally Key
  | [] => [(key, 1)]
  | (each, count) :: rest =>
      if each = key then (each, count + 1) :: rest else (each, count) :: add key rest

def keys {Key : Type} (tally : Tally Key) : List Key := tally.map Prod.fst

def count {Key : Type} [DecidableEq Key] (tally : Tally Key) (key : Key) : Nat :=
  (tally.lookup key).getD 0

end Tally

structure Pass where
  text : Text
  matched : List Scheme
deriving DecidableEq

def Pass.run : List Scheme → Text → Pass
  | [], text => ⟨text, []⟩
  | scheme :: rest, text =>
      let replaced := scheme.codec.decodePass text
      let after := run rest replaced.text
      if replaced.count = 0 then after else ⟨after.text, scheme :: after.matched⟩

structure Decoding where
  text : Text
  /-- In how many passes each scheme matched, in the order of their first matches. -/
  counts : Tally Scheme
  /-- Whether every allowed pass matched something, so that escapes may remain. -/
  exhausted : Bool
deriving DecidableEq

namespace Decoding

def fired (decoding : Decoding) : List Scheme := decoding.counts.keys

/-- At most this many passes are made; each takes time linear in the text. -/
def maxPasses : Nat := 5

def continueFor (schemes : List Scheme) : Nat → Tally Scheme → Text → Decoding
  | 0, counts, text => ⟨text, counts, true⟩
  | remaining + 1, counts, text =>
      let pass := Pass.run schemes text
      if pass.matched.isEmpty then ⟨pass.text, counts, false⟩
      else continueFor schemes remaining
        (pass.matched.foldl (fun tally scheme => tally.add scheme) counts) pass.text

/-- Decodes a text with a list of schemes until nothing matches or the passes are used up. -/
def all (schemes : List Scheme) (text : Text) : Decoding :=
  continueFor schemes maxPasses [] text

end Decoding

inductive Condition where
  /-- One scheme was applied more than once. -/
  | multiple
  /-- More than one scheme was applied. -/
  | mixed
deriving DecidableEq, Repr

namespace Condition

def name : Condition → Text
  | .multiple => Text.ofString "multiple"
  | .mixed => Text.ofString "mixed"

/-- The conditions that counts show. Passes that were used up count as repeated encoding. -/
def detect {Key : Type} (counts : List (Key × Int)) (fired : List Key) (exhausted : Bool) :
    List Condition :=
  (if exhausted || counts.any (fun (_, count) => 1 < count) then [.multiple] else [])
    ++ (if 1 < fired.length then [.mixed] else [])

end Condition

namespace Decoding

def namedCounts (decoding : Decoding) : List (Text × Int) :=
  decoding.counts.map fun (scheme, count) => (scheme.name, (count : Int))

def firedNames (decoding : Decoding) : List Text := decoding.fired.map Scheme.name

def conditions (decoding : Decoding) : List Condition :=
  Condition.detect decoding.namedCounts decoding.firedNames decoding.exhausted

end Decoding

end Escaping
