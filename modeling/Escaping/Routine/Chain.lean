import Escaping.Canonical.Canonicalizer
import Escaping.Routine.Item

/-!
Chains: a value that goes through codecs one after the other, each of which escapes what the one
before it gave, or replaces escapes in it once.
-/

namespace Escaping

namespace Chain

inductive Step where
  | encode (scheme : Scheme)
  | decode (scheme : Scheme)
deriving DecidableEq, Repr

def Step.apply : Step → Value → Except Misuse Value
  | .encode scheme, value => (Item.encode scheme [] value).map Value.text
  | .decode scheme, value => (Canonicalizer.passOver scheme value).map Prod.fst

def run : List Step → Value → Except Misuse (List Value)
  | [], _ => .ok []
  | step :: steps, value => do
      let next ← step.apply value
      pure (next :: (← run steps next))

end Chain

end Escaping
